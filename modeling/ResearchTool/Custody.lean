import ResearchTool.Crud
import ResearchTool.Effects
import ResearchTool.Process.Sequential

/-!
# A job in the custody of one task

While a single task works on a job, the others leave the job's rows alone.
The database functions then do what they say: the loaded instances are those
of the table, and an update assigns every attribute it was given.
-/

namespace ResearchTool

open Process

/-- Calls that end in a permitted way. -/
def callsWithin (permits : Op → Outcome → Bool) : Effect Ops Exn Store :=
  fun op before reply after =>
    ∃ outcome, permits op outcome ∧ exec op outcome before = some (reply, after)

/-- A run of a program alone, given the ends of its calls. -/
def playback {α : Type} (permits : Op → Outcome → Bool) (outcomes : List Outcome)
    (program : Coroutine α) (store : Store) :
    Option (List (Event Ops Exn) × Except Exn α × Store) :=
  program.playback (fun op outcome store =>
    if permits op outcome then exec op outcome store else none) outcomes store

theorem runs_of_playback {α : Type} {permits : Op → Outcome → Bool} {outcomes : List Outcome}
    {program : Coroutine α} {store final : Store} {trace : List (Event Ops Exn)}
    {result : Except Exn α}
    (played : playback permits outcomes program store = some (trace, result, final)) :
    program.Runs (callsWithin permits) store trace result final := by
  apply Program.runs_of_playback _ played
  intro op outcome before reply after called
  split at called
  · rename_i permitted
    exact ⟨outcome, permitted, called⟩
  · cases called

/-- A run that is possible and ends as checked. -/
theorem runs_of_any {α : Type} {permits : Op → Outcome → Bool} {outcomes : List Outcome}
    {program : Coroutine α} {store : Store}
    {check : List (Event Ops Exn) × Except Exn α × Store → Prop} [DecidablePred check]
    (checked : (playback permits outcomes program store).any (fun played => check played)) :
    ∃ trace result final, program.Runs (callsWithin permits) store trace result final ∧
      check (trace, result, final) := by
  obtain ⟨⟨trace, result, final⟩, played, holds⟩ := (Option.any_eq_true _ _).mp checked
  exact ⟨trace, result, final, runs_of_playback played, of_decide_eq_true holds⟩

/-- The terms of a task that has a job to itself: how its calls may end, and
what the others may do between them. -/
structure Custody where
  permits : Op → Outcome → Bool
  rely : Store → Store → Prop
  rely_refl : ∀ store, rely store store
  rely_trans : ∀ {first second third}, rely first second → rely second third → rely first third

namespace Custody

def protocol (terms : Custody) : Protocol Ops Exn Store where
  invariant _ := True
  rely := terms.rely
  effect := callsWithin terms.permits
  guarantee _ _ := True
  rely_refl := terms.rely_refl
  rely_trans := terms.rely_trans

/-- The terms of a program that runs alone. -/
def alone (permits : Op → Outcome → Bool) : Custody where
  permits
  rely before after := after = before
  rely_refl _ := rfl
  rely_trans earlier later := later.trans earlier

/-- Calls of this party are carried out. -/
def Sound (terms : Custody) (party : Party) : Prop :=
  ∀ op outcome, op.party = party → terms.permits op outcome → outcome.faulty = false

/-- The others leave the rows of the job alone. -/
structure Holds (terms : Custody) (jobId : JobId) : Prop where
  job : ∀ {before after}, terms.rely before after → after.jobs jobId = before.jobs jobId
  report : ∀ {before after}, terms.rely before after → after.reports jobId = before.reports jobId

theorem holds_alone (permits : Op → Outcome → Bool) (jobId : JobId) :
    (alone permits).Holds jobId where
  job same := congrArg (fun store : Store => store.jobs jobId) same
  report same := congrArg (fun store : Store => store.reports jobId) same

variable {terms : Custody} {α β : Type} {state : Store} {post : Except Exn α → Store → Prop}

theorem safe_pure {value : α} (holds : ∀ now, terms.rely state now → post (.ok value) now) :
    (Program.pure value : Coroutine α).Safe terms.protocol post state :=
  Program.safe_pure.mpr fun now _ => holds now

theorem safe_raise {error : Exn} (holds : ∀ now, terms.rely state now → post (.error error) now) :
    (Program.raise error : Coroutine α).Safe terms.protocol post state :=
  Program.safe_raise.mpr fun now _ => holds now

/-- One call that may return or raise. -/
theorem safe_await {op : Op} {next : op.Reply → Coroutine α}
    (returned : ∀ value now after outcome, terms.rely state now → terms.permits op outcome →
      exec op outcome now = some (.ok value, after) → (next value).Safe terms.protocol post after)
    (raised : ∀ error now after outcome, terms.rely state now → terms.permits op outcome →
      exec op outcome now = some (.error error, after) →
        (Program.raise error).Safe terms.protocol post after) :
    ((await op).bind next).Safe terms.protocol post state := by
  apply Program.Safe.perform_bind
  rintro now reply after - reached ⟨outcome, permitted, called⟩
  refine ⟨trivial, trivial, ?_, ?_⟩
  · rintro value rfl
    exact returned value now after outcome reached permitted called
  · rintro error rfl
    exact raised error now after outcome reached permitted called

/-- One call whose exception is caught. -/
theorem safe_attempt {op : Op} {next : Except Exn op.Reply → Coroutine α}
    (replied : ∀ reply now after outcome, terms.rely state now → terms.permits op outcome →
      exec op outcome now = some (reply, after) → (next reply).Safe terms.protocol post after) :
    ((Program.attempt (await op)).bind next).Safe terms.protocol post state := by
  have caught : (Program.attempt (await op)).bind next = .call op next :=
    Program.attempt_perform_bind (S := Ops) op next
  rw [caught, Program.safe_call]
  rintro now reply after - reached ⟨outcome, permitted, called⟩
  exact ⟨trivial, trivial, replied reply now after outcome reached permitted called⟩

/-- One call that is carried out and known to return. -/
theorem safe_answered {op : Op} {next : op.Reply → Coroutine α}
    (sound : ∀ now reply after outcome, terms.permits op outcome →
      exec op outcome now = some (reply, after) → outcome.faulty = false)
    (answered : ∀ now reply after supply, terms.rely state now →
      answer op supply now = some (reply, after) →
        ∃ value, reply = .ok value ∧ (next value).Safe terms.protocol post after) :
    ((await op).bind next).Safe terms.protocol post state := by
  apply safe_await
  · intro value now after outcome reached permitted called
    obtain ⟨supply, replied⟩ := answer_of_exec (sound _ _ _ _ permitted called) called
    obtain ⟨other, same, safe⟩ := answered now _ after supply reached replied
    cases same
    exact safe
  · intro error now after outcome reached permitted called
    obtain ⟨supply, replied⟩ := answer_of_exec (sound _ _ _ _ permitted called) called
    obtain ⟨other, same, -⟩ := answered now _ after supply reached replied
    cases same

/-- The clock is always read. -/
theorem safe_now {next : DateTime → Coroutine α}
    (rest : ∀ time now, terms.rely state now → (next time).Safe terms.protocol post now) :
    ((await .now).bind next).Safe terms.protocol post state := by
  apply safe_await
  · intro value now after outcome reached _ called
    obtain ⟨time, -, rfl⟩ := exec_now called
    exact rest value after reached
  · intro error now after outcome _ _ called
    obtain ⟨time, impossible, -⟩ := exec_now called
    cases impossible

section

variable (database : terms.Sound .database) {jobId : JobId} (holds : terms.Holds jobId)

include database

theorem safe_database {op : Op} {next : op.Reply → Coroutine α} (stored : op.party = .database)
    (answered : ∀ now reply after supply, terms.rely state now →
      answer op supply now = some (reply, after) →
        ∃ value, reply = .ok value ∧ (next value).Safe terms.protocol post after) :
    ((await op).bind next).Safe terms.protocol post state :=
  safe_answered (fun _ _ _ outcome permitted _ => database op outcome stored permitted) answered

include holds

/-- `update_job_status` by a session that has not loaded the row, or has it as
it is, assigns what it was given. -/
theorem safe_updateJobStatus {session : Session} {changes : JobChanges}
    {row : ResearchJobRecord} {next : Session → Coroutine α}
    (present : state.jobs jobId = some row)
    (loaded : session.jobs jobId = none ∨ session.jobs jobId = some row)
    (rest : ∀ (updated : Session) (before now : Store), terms.rely state before →
      terms.rely (before.putJob jobId (changes.apply row)) now →
      updated.jobs jobId = some (changes.apply row) → updated.reports = session.reports →
      (next updated).Safe terms.protocol post now) :
    ((updateJobStatus session jobId changes).bind next).Safe terms.protocol post state := by
  rw [updateJobStatus_eq, Program.bind_assoc]
  apply safe_database database rfl
  intro selecting reply after supply reached answered
  obtain ⟨alive, rfl, rfl⟩ := answer_selectJob answered
  refine ⟨_, rfl, ?_⟩
  have current : after.jobs jobId = some row := (holds.job reached).trans present
  have identified : identify (session.jobs jobId) ⟨after.jobs jobId, alive⟩ = some row := by
    rcases loaded with unloaded | same
    · simp [identify, unloaded, current]
    · simp [identify, same, current]
  simp only [identified, Program.bind_assoc]
  apply safe_database database rfl
  intro before reply stored supply further answered
  have kept : before.jobs jobId = some row := (holds.job further).trans current
  obtain ⟨rfl, rfl⟩ := answer_updateJob kept answered
  refine ⟨(), rfl, ?_⟩
  rw [JobChanges.against_apply]
  apply safe_database database rfl
  intro refreshing reply refreshed supply later answered
  have written : refreshing.jobs jobId = some (changes.apply row) := by
    rw [holds.job later]
    simp
  obtain ⟨rfl, rfl⟩ := answer_refreshJob written answered
  refine ⟨_, rfl, ?_⟩
  apply rest (session.loadJob jobId (changes.apply row)) before refreshed
    (terms.rely_trans reached further) later
  · simp [Session.loadJob]
  · rfl

/-- `save_final_report` by a session that has not loaded the report row leaves
a row with the given content. -/
theorem safe_saveFinalReport {session : Session} {content : ReportContent}
    {next : Session → Coroutine α} (unloaded : session.reports jobId = none)
    (rest : ∀ (saved : Session) (record : FinalResearchReportRecord) (before now : Store),
      terms.rely state before → terms.rely (before.putReport jobId record) now →
      record.content = content → saved.jobs = session.jobs →
      (next saved).Safe terms.protocol post now) :
    ((saveFinalReport session jobId content).bind next).Safe terms.protocol post state := by
  -- both branches end with the refresh of the row that was written
  have refresh : ∀ (record : FinalResearchReportRecord) (before : Store),
      terms.rely state before → record.content = content →
      (((await (.refreshReport jobId)).bind fun refreshed =>
        .pure (session.loadReport jobId refreshed)).bind next).Safe terms.protocol post
          (before.putReport jobId record) := by
    intro record before reached same
    rw [Program.bind_assoc]
    apply safe_database database rfl
    intro refreshing reply refreshed supply later answered
    have written : refreshing.reports jobId = some record := by
      rw [holds.report later]
      simp
    obtain ⟨rfl, rfl⟩ := answer_refreshReport written answered
    exact ⟨_, rfl, rest _ record before refreshed reached later same rfl⟩
  rw [saveFinalReport_eq, Program.bind_assoc]
  apply safe_database database rfl
  intro selecting reply after supply reached answered
  obtain ⟨alive, rfl, rfl⟩ := answer_selectReport answered
  refine ⟨_, rfl, ?_⟩
  simp only [unloaded, identify_none]
  cases stored : after.reports jobId with
  | none =>
      rw [Program.bind_assoc]
      apply safe_now
      intro createdTime later moved
      rw [Program.bind_assoc]
      apply safe_database database rfl
      intro before reply inserted supply further answered
      have absent : before.reports jobId = none :=
        (holds.report (terms.rely_trans moved further)).trans stored
      obtain ⟨rfl, rfl⟩ := answer_insertReport absent answered
      refine ⟨(), rfl, ?_⟩
      exact refresh { jobId, content, createdTime } before
        (terms.rely_trans reached (terms.rely_trans moved further)) rfl
  | some row =>
      rw [Program.bind_assoc]
      apply safe_database database rfl
      intro before reply updated supply further answered
      have kept : before.reports jobId = some row := (holds.report further).trans stored
      obtain ⟨rfl, rfl⟩ := answer_updateReport kept answered
      refine ⟨(), rfl, ?_⟩
      rw [ReportChanges.against_ofContent_apply]
      exact refresh { row with content } before (terms.rely_trans reached further) rfl

omit holds in
/-- A session is closed after its body, whose outcome is passed on. -/
theorem safe_withSession {body : Session → Coroutine β} {next : β → Coroutine α}
    {middle : Except Exn β → Store → Prop}
    (safe : (body .empty).Safe terms.protocol middle state)
    (returned : ∀ value before now, middle (.ok value) before → terms.rely before now →
      (next value).Safe terms.protocol post now)
    (raised : ∀ error before now, middle (.error error) before → terms.rely before now →
      (Program.raise error).Safe terms.protocol post now) :
    ((withSession body).bind next).Safe terms.protocol post state := by
  have attempted : (body .empty).attempt.Safe terms.protocol
      (fun ended now => ∃ outcome, ended = .ok outcome ∧ middle outcome now) state :=
    (safe.weaken fun outcome now _ held => ⟨outcome, rfl, held⟩).attempt
  rw [withSession_eq, Program.bind_assoc]
  apply attempted.bind trivial
  · rintro outcome before - ⟨ended, same, held⟩
    cases same
    rw [Program.bind_assoc]
    apply safe_database database rfl
    intro now reply after supply reached answered
    obtain ⟨rfl, rfl⟩ := answer_closeSession answered
    refine ⟨(), rfl, ?_⟩
    cases outcome with
    | ok value => exact returned value before after held reached
    | error error => exact raised error before after held reached
  · rintro error now - ⟨outcome, same, -⟩
    cases same

end

/-! ## Database functions on their own -/

section

variable {permits : Op → Outcome → Bool} (database : (alone permits).Sound .database)
  {jobId : JobId}

include database

theorem always_updateJobStatus {session : Session} {changes : JobChanges}
    {row : ResearchJobRecord} (present : state.jobs jobId = some row)
    (loaded : session.jobs jobId = none ∨ session.jobs jobId = some row) :
    (updateJobStatus session jobId changes).Always (callsWithin permits) state
      fun _ result final => ∃ updated, result = .ok updated ∧
        updated.jobs jobId = some (changes.apply row) ∧ updated.reports = session.reports ∧
        final = state.putJob jobId (changes.apply row) := by
  apply Program.Safe.always (P := (alone permits).protocol) _ trivial
  rw [← Program.bind_pure (updateJobStatus session jobId changes)]
  apply safe_updateJobStatus database (holds_alone permits jobId) present loaded
  rintro updated before now rfl rfl current same
  apply safe_pure
  rintro now rfl
  exact ⟨updated, rfl, current, same, rfl⟩

theorem always_saveFinalReport {session : Session} {content : ReportContent}
    (unloaded : session.reports jobId = none) :
    (saveFinalReport session jobId content).Always (callsWithin permits) state
      fun _ result final => ∃ saved record, result = .ok saved ∧ record.content = content ∧
        saved.jobs = session.jobs ∧ final = state.putReport jobId record := by
  apply Program.Safe.always (P := (alone permits).protocol) _ trivial
  rw [← Program.bind_pure (saveFinalReport session jobId content)]
  apply safe_saveFinalReport database (holds_alone permits jobId) unloaded
  rintro saved record before now rfl rfl written same
  apply safe_pure
  rintro now rfl
  exact ⟨saved, record, rfl, written, same, rfl⟩

end

end Custody

end ResearchTool
