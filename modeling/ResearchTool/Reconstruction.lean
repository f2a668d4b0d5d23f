import ResearchTool.Company
import ResearchTool.Tenancy

/-!
# Polls of finished jobs

While a completed snapshot is in Redis a poll shows the snapshot beside the
report; once it has expired the poll derives everything from the report row.
An execution of the pipeline writes a snapshot that both agree on, as long as
no other one writes the report at the same time.  A submission that is answered
from the AI cache writes one that does not say whether there was a fallback, so
that they differ.
-/

namespace ResearchTool

open Process

/-- The snapshot in Redis says that the job is completed. -/
def Store.ShowsCompleted (store : Store) (jobId : JobId) : Prop :=
  ∃ snapshot, store.snapshots jobId = some snapshot ∧ snapshot.status = .completed

/-- A poll may return the response. -/
def Polled (jobId : JobId) (store : Store) (response : PollingStatusResponse) : Prop :=
  ∃ trace final, (pollJob jobId).Runs (callsWithin fun _ _ => true) store trace
    (.ok response) final

/-- Two responses agree in all but the progress message and the time. -/
structure SameAnswer (served rebuilt : PollingStatusResponse) : Prop where
  jobId : served.jobId = rebuilt.jobId
  status : served.status = rebuilt.status
  instantData : served.instantData = rebuilt.instantData
  report : served.report = rebuilt.report
  aiFallback : served.aiFallback = rebuilt.aiFallback
  aiFallbackReason : served.aiFallbackReason = rebuilt.aiFallbackReason
  error : served.error = rebuilt.error

/-- Polls answer the same before and after the snapshot has expired. -/
structure PollsAgree (jobId : JobId) (store : Store) : Prop where
  served : ∃ response, Polled jobId store response
  rebuilt : ∃ response, Polled jobId (store.dropSnapshot jobId) response
  same : ∀ served rebuilt, Polled jobId store served →
    Polled jobId (store.dropSnapshot jobId) rebuilt → SameAnswer served rebuilt

/-! ## What polls return -/

/-- The message of the job has been sent.  A submission that hits the AI cache
completes its job without one. -/
def Store.Enqueued (jobId : JobId) (store : Store) : Prop :=
  ∃ id, store.queue.jobAt id = some jobId

/-- A message is delivered only when no task works on its job.  Calls may end in
any way, and any task may crash. -/
def oneAtATime (action : Action) (service : Service) : Bool :=
  match action with
  | .deliver id =>
      (service.store.queue.jobAt id).all fun jobId =>
        service.tasks.all fun task => task.tenant != some jobId
  | _ => true

/-! ## What polls return -/

namespace Reconstruction

/-- The report a poll loads is the one that is stored. -/
theorem always_loadReport {α : Type} {jobId : JobId} {store : Store}
    {next : Option ResearchReport → Coroutine α} {fact : α → Prop}
    (rest : (next ((store.reports jobId).map reportOfRecord)).Always
      (callsWithin fun _ _ => true) store fun _ result _ => ∀ value, result = .ok value →
      fact value) :
    ((loadReport .empty jobId).bind next).Always (callsWithin fun _ _ => true) store
      fun _ result _ => ∀ value, result = .ok value → fact value := by
  rw [loadReport_bind]
  apply Program.always_perform_bind
  · rintro selected middle ⟨outcome, -, called⟩
    obtain ⟨row, rfl⟩ := selectReport_ok called
    rw [row]
    exact rest
  · intro error middle _
    exact nothing_returned

theorem polled_iff {jobId : JobId} {store : Store} {snapshot : ResearchJobStateSnapshot}
    (found : store.snapshots jobId = some snapshot) (completed : snapshot.status = .completed)
    (response : PollingStatusResponse) :
    Polled jobId store response ↔
      response = pollingResponse snapshot ((store.reports jobId).map reportOfRecord) := by
  have polls : pollWithSnapshot jobId snapshot =
      (loadReport .empty jobId).bind fun report => .pure (pollingResponse snapshot report) :=
    if_pos completed
  constructor
  · rintro ⟨trace, final, runs⟩
    have always : (pollJob jobId).Always (callsWithin fun _ _ => true) store
        fun _ result _ => ∀ value, result = .ok value →
          value = pollingResponse snapshot ((store.reports jobId).map reportOfRecord) := by
      apply Program.always_perform_bind
      · rintro state middle ⟨outcome, -, called⟩
        obtain ⟨rfl, rfl⟩ := getState_ok called
        rw [found]
        change (pollWithSnapshot jobId snapshot).Always _ _ _
        rw [polls]
        apply always_loadReport
        exact always_returned rfl
      · intro error middle _
        exact nothing_returned
    exact runs.meets always response rfl
  · rintro rfl
    have read :
        callsWithin (fun _ _ => true) (.getState jobId) store (.ok (some snapshot)) store :=
      ⟨.ok, rfl, by simp [exec, answer, found]⟩
    have loaded : (pollWithSnapshot jobId snapshot).Runs (callsWithin fun _ _ => true) store
        [⟨.selectReport jobId, .ok ⟨store.reports jobId, true⟩⟩]
        (.ok (pollingResponse snapshot ((store.reports jobId).map reportOfRecord))) store := by
      rw [polls, loadReport_bind]
      exact Program.Runs.perform_bind ⟨.done (.flag true), rfl, rfl⟩ (.pure _ _)
    exact ⟨_, store, Program.Runs.perform_bind read loaded⟩

theorem polled_of_no_snapshot_iff {jobId : JobId} {store : Store}
    (missing : store.snapshots jobId = none) (response : PollingStatusResponse) :
    Polled jobId store response ↔
      ∃ record, store.reports jobId = some record ∧
        response = pollingResponse (reportSnapshot jobId (reportOfRecord record))
          (some (reportOfRecord record)) := by
  constructor
  · rintro ⟨trace, final, runs⟩
    have always : (pollJob jobId).Always (callsWithin fun _ _ => true) store
        fun _ result _ => ∀ value, result = .ok value →
          ∃ record, store.reports jobId = some record ∧
            value = pollingResponse (reportSnapshot jobId (reportOfRecord record))
              (some (reportOfRecord record)) := by
      apply Program.always_perform_bind
      · rintro state middle ⟨outcome, -, called⟩
        obtain ⟨rfl, rfl⟩ := getState_ok called
        rw [missing]
        change (pollWithoutSnapshot jobId).Always _ _ _
        apply always_loadReport
        cases stored : middle.reports jobId with
        | none =>
            apply Program.always_raise.mpr
            exact nothing_returned
        | some record =>
            exact always_returned ⟨record, rfl, rfl⟩
      · intro error middle _
        exact nothing_returned
    exact runs.meets always response rfl
  · rintro ⟨record, stored, rfl⟩
    have read : callsWithin (fun _ _ => true) (.getState jobId) store (.ok none) store :=
      ⟨.ok, rfl, by simp [exec, answer, missing]⟩
    have selected : callsWithin (fun _ _ => true) (.selectReport jobId) store
        (.ok ⟨some record, true⟩) store :=
      ⟨.done (.flag true), rfl, by simp [exec, answer, stored]⟩
    have loaded : (pollWithoutSnapshot jobId).Runs (callsWithin fun _ _ => true) store
        [⟨.selectReport jobId, .ok ⟨some record, true⟩⟩]
        (.ok (pollingResponse (reportSnapshot jobId (reportOfRecord record))
          (some (reportOfRecord record)))) store := by
      rw [pollWithoutSnapshot, Program.bind_eq, loadReport_bind]
      exact Program.Runs.perform_bind selected (.pure _ _)
    exact ⟨_, store, Program.Runs.perform_bind read loaded⟩

/-! ## What a completion leaves -/

/-- The snapshot of the job and its report say the same. -/
def Agreed (jobId : JobId) (store : Store) : Prop :=
  ∃ snapshot record, store.snapshots jobId = some snapshot ∧ snapshot.status = .completed ∧
    store.reports jobId = some record ∧
    SameAnswer (pollingResponse snapshot (some (reportOfRecord record)))
      (pollingResponse (reportSnapshot jobId (reportOfRecord record))
        (some (reportOfRecord record)))

theorem Agreed.pollsAgree {jobId : JobId} {store : Store} (agreed : Agreed jobId store) :
    PollsAgree jobId store := by
  obtain ⟨snapshot, record, found, completed, stored, same⟩ := agreed
  have missing : (store.dropSnapshot jobId).snapshots jobId = none := Function.update_self _ _ _
  have kept : (store.dropSnapshot jobId).reports jobId = some record := stored
  have serves := polled_iff found completed
  rw [stored] at serves
  have rebuilds := polled_of_no_snapshot_iff missing
  constructor
  · exact ⟨_, (serves _).mpr rfl⟩
  · exact ⟨_, (rebuilds _).mpr ⟨record, kept, rfl⟩⟩
  · intro served rebuilt polled later
    obtain ⟨other, storedOther, rfl⟩ := (rebuilds rebuilt).mp later
    obtain rfl := Option.some.inj (kept.symm.trans storedOther)
    rw [(serves served).mp polled]
    exact same

/-- Polls differ about a snapshot with another flag than they derive from the
report. -/
theorem not_pollsAgree {jobId : JobId} {store : Store} {snapshot : ResearchJobStateSnapshot}
    (found : store.snapshots jobId = some snapshot) (completed : snapshot.status = .completed)
    (differs : ∀ record, store.reports jobId = some record →
      snapshot.aiFallback ≠ (reportSnapshot jobId (reportOfRecord record)).aiFallback) :
    ¬ PollsAgree jobId store := by
  intro agree
  have missing : (store.dropSnapshot jobId).snapshots jobId = none := Function.update_self _ _ _
  obtain ⟨rebuilt, later⟩ := agree.rebuilt
  have same := agree.same _ rebuilt ((polled_iff found completed _).mpr rfl) later
  obtain ⟨record, stored, rfl⟩ := (polled_of_no_snapshot_iff missing rebuilt).mp later
  exact differs record stored same.aiFallback

/-! ## What the stores say of a job -/

/-- A completed snapshot of the job says nothing about a fallback. -/
def ShownUnflagged (jobId : JobId) (store : Store) : Prop :=
  ∀ snapshot, store.snapshots jobId = some snapshot → snapshot.status = .completed →
    snapshot.aiFallback = none

/-- A completed snapshot of a job that was queued agrees with the report; that of
any other job is the one of a submission. -/
structure Accounts (jobId : JobId) (store : Store) : Prop where
  enqueued : store.Enqueued jobId → store.ShowsCompleted jobId → Agreed jobId store
  unsent : ¬ store.Enqueued jobId → ShownUnflagged jobId store

/-- The job was queued and is not shown as completed. -/
structure Underway (jobId : JobId) (store : Store) : Prop where
  enqueued : store.Enqueued jobId
  unfinished : ¬ store.ShowsCompleted jobId

section

variable {jobId : JobId} {before after : Store}

theorem ShownUnflagged.of_unfinished (unfinished : ¬ before.ShowsCompleted jobId) :
    ShownUnflagged jobId before := by
  intro snapshot found completed
  exact absurd ⟨snapshot, found, completed⟩ unfinished

theorem Accounts.of_unfinished (unfinished : ¬ before.ShowsCompleted jobId) :
    Accounts jobId before where
  enqueued _ shown := absurd shown unfinished
  unsent _ := .of_unfinished unfinished

theorem Agreed.keep (agreed : Agreed jobId before)
    (report : after.reports jobId = before.reports jobId)
    (snapshot : after.snapshots jobId = before.snapshots jobId) : Agreed jobId after := by
  obtain ⟨shown, record, found, completed, stored, same⟩ := agreed
  exact ⟨shown, record, snapshot.trans found, completed, report.trans stored, same⟩

/-- What is shown was shown before, or has expired. -/
theorem shown_of_expires (snapshot : after.snapshots jobId = before.snapshots jobId ∨
    after.snapshots jobId = none) {shown : ResearchJobStateSnapshot}
    (found : after.snapshots jobId = some shown) : before.snapshots jobId = some shown := by
  rcases snapshot with same | expired
  · exact same.symm.trans found
  · cases expired.symm.trans found

theorem showsCompleted_of_expires (snapshot : after.snapshots jobId = before.snapshots jobId ∨
    after.snapshots jobId = none) (shown : after.ShowsCompleted jobId) :
    before.ShowsCompleted jobId := by
  obtain ⟨stored, found, completed⟩ := shown
  exact ⟨stored, shown_of_expires snapshot found, completed⟩

theorem Accounts.keep (accounts : Accounts jobId before)
    (sent : after.Enqueued jobId ↔ before.Enqueued jobId)
    (report : after.reports jobId = before.reports jobId)
    (snapshot : after.snapshots jobId = before.snapshots jobId ∨ after.snapshots jobId = none) :
    Accounts jobId after where
  enqueued queued shown := by
    have agreed := accounts.enqueued (sent.mp queued) (showsCompleted_of_expires snapshot shown)
    rcases snapshot with same | expired
    · exact agreed.keep report same
    · obtain ⟨stored, found, -⟩ := shown
      cases expired.symm.trans found
  unsent unqueued stored found :=
    accounts.unsent (fun queued => unqueued (sent.mpr queued)) stored
      (shown_of_expires snapshot found)

theorem enqueued_of_leaves (left : before.Leaves jobId after) :
    after.Enqueued jobId ↔ before.Enqueued jobId :=
  exists_congr left.sent

theorem Accounts.leave (left : before.Leaves jobId after) (accounts : Accounts jobId before) :
    Accounts jobId after :=
  accounts.keep (enqueued_of_leaves left) left.report left.snapshot

theorem Accounts.receive (id : Nat) (accounts : Accounts jobId before) :
    Accounts jobId (before.putQueue (before.queue.markReceived id)) := by
  refine accounts.keep ?_ rfl (.inl rfl)
  apply exists_congr
  intro other
  rw [Store.putQueue_queue, (Queue.moves_markReceived _ _).jobAt]

theorem unfinished_leave (left : before.Leaves jobId after)
    (unfinished : ¬ before.ShowsCompleted jobId) : ¬ after.ShowsCompleted jobId :=
  fun shown => unfinished (showsCompleted_of_expires left.snapshot shown)

theorem Underway.leave (left : before.Leaves jobId after) (underway : Underway jobId before) :
    Underway jobId after where
  enqueued := (enqueued_of_leaves left).mpr underway.enqueued
  unfinished := unfinished_leave left underway.unfinished

end

/-! ## What calls change -/

/-- The operation does not write a completed snapshot of the job. -/
def Op.Unfinished (jobId : JobId) : Op → Prop
  | .setState snapshot => snapshot.jobId = jobId → snapshot.status ≠ .completed
  | _ => True

/-- The operation writes no completed snapshot of the job, no report of it and no
message about it. -/
def Op.Spares (jobId : JobId) : Op → Prop
  | .setState snapshot => snapshot.jobId = jobId → snapshot.status ≠ .completed
  | .insertReport record => record.jobId ≠ jobId
  | .updateReport id _ => id ≠ jobId
  | .send message => message.jobId ≠ jobId
  | _ => True

section

variable {jobId : JobId} {op : Op} {store after : Store}

theorem Enqueued.written (written : Written store op after) (enqueued : store.Enqueued jobId) :
    after.Enqueued jobId := by
  obtain ⟨id, about⟩ := enqueued
  exact ⟨id, written.grows.jobAt about⟩

theorem enqueued_iff_of_written (written : Written store op after)
    (foreign : ∀ message, op = .send message → message.jobId ≠ jobId) :
    after.Enqueued jobId ↔ store.Enqueued jobId := by
  refine ⟨?_, Enqueued.written written⟩
  rintro ⟨id, about⟩
  refine ⟨id, ?_⟩
  cases written with
  | sent message =>
      rw [Store.putQueue_queue, jobAt_enqueue] at about
      split at about
      · exact absurd (Option.some.inj about) (foreign message rfl)
      · exact about
  | deleted handle honoured =>
      rwa [Store.putQueue_queue, (Queue.moves_delete _ _ _).jobAt] at about
  | revealed handle timeoutSeconds honoured =>
      rwa [Store.putQueue_queue, (Queue.moves_changeVisibility _ _ _ _).jobAt] at about
  | _ => exact about

theorem unfinished_written (written : Written store op after) (leaves : Op.Unfinished jobId op)
    (unfinished : ¬ store.ShowsCompleted jobId) : ¬ after.ShowsCompleted jobId := by
  cases written with
  | snapshot snapshot =>
      rintro ⟨shown, found, completed⟩
      rcases update_eq_some found with ⟨named, same⟩ | ⟨-, found⟩
      · cases same
        exact leaves named.symm completed
      · exact unfinished ⟨shown, found, completed⟩
  | _ => exact unfinished

theorem Underway.written (written : Written store op after) (leaves : Op.Unfinished jobId op)
    (underway : Underway jobId store) : Underway jobId after where
  enqueued := Enqueued.written written underway.enqueued
  unfinished := unfinished_written written leaves underway.unfinished

theorem Accounts.written (written : Written store op after) (spares : Op.Spares jobId op)
    (accounts : Accounts jobId store) : Accounts jobId after := by
  have sent : after.Enqueued jobId ↔ store.Enqueued jobId := by
    apply enqueued_iff_of_written written
    rintro message rfl
    exact spares
  cases written with
  | snapshot snapshot =>
      by_cases own : snapshot.jobId = jobId
      · apply Accounts.of_unfinished
        rintro ⟨shown, found, completed⟩
        rcases update_eq_some found with ⟨named, same⟩ | ⟨other, -⟩
        · cases same
          exact spares own completed
        · exact other own.symm
      · exact accounts.keep sent rfl (.inl (Function.update_of_ne (Ne.symm own) _ _))
  | reported record absent =>
      exact accounts.keep sent (Function.update_of_ne (Ne.symm spares) _ _) (.inl rfl)
  | revised id changes row present =>
      exact accounts.keep sent (Function.update_of_ne (Ne.symm spares) _ _) (.inl rfl)
  | _ => exact accounts.keep sent rfl (.inl rfl)

end

/-! ## Terms -/

/-- One task at a time works on a job.  Any call may fail and any task may
crash. -/
def tenancy : Tenancy where
  permits _ _ _ := true
  mayCrash _ := true
  mayRefuse _ := true
  bears stage := Accounts stage.job
  rests jobId _ := Accounts jobId
  bears_of_leaves := .leave
  rests_of_leaves := .leave

theorem allows_of_oneAtATime (env : Environment) (action : Action) (service : Service)
    (permitted : oneAtATime action service = true) :
    tenancy.allows env action service = true := by
  cases action with
  | deliver id => exact Tenancy.allows_deliver (fun _ => rfl) permitted
  | _ => simp [Tenancy.allows, tenancy]

/-- The terms of the task that works on a job. -/
def terms (jobId : JobId) : Protocol Ops Exn Store where
  invariant := Accounts jobId
  rely := Store.Leaves jobId
  effect := callsWithin fun _ _ => true
  guarantee _ _ := True
  rely_refl := .refl jobId
  rely_trans := .trans

/-- The same without an invariant. -/
def custody (jobId : JobId) : Custody where
  permits _ _ := true
  rely := Store.Leaves jobId
  rely_refl := .refl jobId
  rely_trans := .trans

/-- A queued job that is not shown as completed. -/
def running (jobId : JobId) : Phase (terms jobId) where
  allowed := Op.Unfinished jobId
  fact := Underway jobId
  implies underway := .of_unfinished underway.unfinished
  stable := .leave
  kept := by
    rintro op before reply after leaves underway ⟨outcome, -, called⟩
    exact ⟨underway.written (written_of_exec called) leaves, trivial⟩

/-- A queued job, whatever it is shown as. -/
def waiting (jobId : JobId) : Phase (terms jobId) where
  allowed := Op.Spares jobId
  fact store := Accounts jobId store ∧ store.Enqueued jobId
  implies := And.left
  stable left holds := ⟨holds.1.leave left, (enqueued_of_leaves left).mpr holds.2⟩
  kept := by
    rintro op before reply after spares ⟨accounts, enqueued⟩ ⟨outcome, -, called⟩
    have written := written_of_exec called
    exact ⟨⟨accounts.written written spares, Enqueued.written written enqueued⟩, trivial⟩

/-- The program leaves stores that account for the job. -/
def Settles {α : Type} (jobId : JobId) (program : Coroutine α) (state : Store) : Prop :=
  program.Safe (terms jobId) (fun _ now => Accounts jobId now) state

section

variable {α β : Type} {jobId : JobId} {state : Store}

theorem settles_of_spares {program : Coroutine α} (uses : program.Uses (Op.Spares jobId))
    (accounts : Accounts jobId state) : Settles jobId program state := by
  apply uses.safe _ (fun _ _ => .leave) accounts
  rintro op before reply after spares - accounts ⟨outcome, -, called⟩
  have kept := accounts.written (written_of_exec called) spares
  exact ⟨kept, trivial, kept⟩

/-- A program that does not complete the job. -/
theorem settles_of_unfinished {program : Coroutine α} (uses : program.Uses (Op.Unfinished jobId))
    (unfinished : ¬ state.ShowsCompleted jobId) : Settles jobId program state := by
  have safe : program.Safe (terms jobId) (fun _ now => ¬ now.ShowsCompleted jobId) state := by
    apply uses.safe
    · rintro op before reply after leaves - unfinished ⟨outcome, -, called⟩
      have still := unfinished_written (written_of_exec called) leaves unfinished
      exact ⟨.of_unfinished still, trivial, still⟩
    · exact fun _ _ => unfinished_leave
    · exact unfinished
  exact safe.weaken fun _ _ accounts _ => accounts

/-- A call that does not complete the job, and then another program. -/
theorem settles_await {op : Op} {next : op.Reply → Coroutine α} (underway : Underway jobId state)
    (leaves : Op.Unfinished jobId op)
    (rest : ∀ value before now outcome, state.Leaves jobId before →
      exec op outcome before = some (.ok value, now) → Underway jobId now →
      Settles jobId (next value) now) :
    Settles jobId ((await op).bind next) state := by
  apply (running jobId).await underway leaves
  rintro value before now left ⟨outcome, -, called⟩ still
  exact rest value before now outcome left called still

/-- A program that does not complete the job, and then another. -/
theorem settles_bind {program : Coroutine β} {next : β → Coroutine α}
    {post : Except Exn β → Store → Prop} (underway : Underway jobId state)
    (uses : program.Uses (Op.Unfinished jobId))
    (safe : program.Safe (custody jobId).protocol post state)
    (rest : ∀ value now, Underway jobId now → post (.ok value) now →
      Settles jobId (next value) now) :
    Settles jobId (program.bind next) state :=
  (running jobId).bind underway uses safe (fun _ _ => trivial) (fun _ _ => id)
    (fun _ _ _ _ => id) rest

/-- Closing the session leaves what the body established. -/
theorem settles_withSession {body : Session → Coroutine α} (accounts : Accounts jobId state)
    (settles : Settles jobId (body .empty) state) : Settles jobId (withSession body) state := by
  rw [withSession_eq]
  have attempted : (body .empty).attempt.Safe (terms jobId)
      (fun _ now => Accounts jobId now) state := Program.Safe.attempt settles
  apply attempted.bind accounts
  · intro outcome now accounts _
    apply settles_of_spares _ accounts
    exact Program.Uses.perform_bind trivial fun _ => Program.uses_ofExcept _
  · exact fun _ _ accounts _ => accounts

/-! ## The pipeline -/

theorem unfinished_updateJobStatus (session : Session) (id : JobId) (changes : JobChanges) :
    (updateJobStatus session id changes).Uses (Op.Unfinished jobId) :=
  uses_updateJobStatus _ _ _ trivial (fun _ => trivial) trivial

theorem unfinished_saveFinalReport (session : Session) (id : JobId) (content : ReportContent) :
    (saveFinalReport session id content).Uses (Op.Unfinished jobId) :=
  uses_saveFinalReport _ _ _ trivial trivial (fun _ => trivial) (fun _ => trivial) trivial

/-- The completion stage leaves a snapshot that says what the report says. -/
theorem settles_completionStage {session : Session} (rawContext : RepositoryRawContext)
    (cacheKey : String) (analysis : Analysis) (underway : Underway jobId state)
    (unloaded : session.reports jobId = none) :
    Settles jobId (completionStage session jobId rawContext cacheKey analysis) state := by
  apply settles_await underway
  · trivial
  intro createdAt _ first _ _ _ underway
  apply settles_bind underway (unfinished_saveFinalReport _ _ _)
    (Custody.safe_saveFinalReport_content Store.Leaves.report _ unloaded)
  intro session saved underway stored
  obtain ⟨record, stored, content⟩ := stored session rfl
  apply settles_bind underway (unfinished_updateJobStatus _ _ _)
    (Custody.safe_updateJobStatus_reports Store.Leaves.report _ _)
  rintro session updated underway ⟨kept, -⟩
  apply settles_await underway
  · trivial
  intro time before ready outcome left called underway
  obtain ⟨-, -, rfl⟩ := exec_now called
  have current : ready.reports jobId = some record := left.report.trans (kept.trans stored)
  rw [← Program.bind_pure (await (.setState _))]
  apply Program.Safe.perform_bind
  rintro now reply final - beside ⟨outcome, -, called⟩
  have accounts : Accounts jobId final := by
    have running := underway.leave beside
    cases written_of_exec called with
    | unchanged => exact .of_unfinished running.unfinished
    | snapshot =>
        refine ⟨fun _ _ => ⟨_, record, Function.update_self _ _ _, rfl,
          beside.report.trans current, ?_⟩, fun unsent => absurd running.enqueued unsent⟩
        constructor
        · rfl
        · rfl
        · rw [reportOfRecord, content]
          rfl
        · rfl
        · rw [reportOfRecord, content]
          rfl
        · rw [reportOfRecord, content]
          rfl
        · rfl
  refine ⟨accounts, trivial, ?_, ?_⟩
  · exact fun _ _ => Program.safe_pure.mpr fun _ accounts _ => accounts
  · exact fun _ _ => Program.safe_raise.mpr fun _ accounts _ => accounts

/-- A program that does not complete the job, whatever it returns, and then another. -/
theorem settles_then {program : Coroutine β} {next : β → Coroutine α}
    (underway : Underway jobId state) (uses : program.Uses (Op.Unfinished jobId))
    (rest : ∀ value now, Underway jobId now → Settles jobId (next value) now) :
    Settles jobId (program.bind next) state :=
  (running jobId).thereafter underway uses rest

theorem settles_pipelineSession (env : Environment) (target : ParsedRepoTarget)
    (underway : Underway jobId state) :
    Settles jobId (pipelineSession env jobId target .empty) state := by
  apply settles_bind underway (unfinished_updateJobStatus _ _ _)
    (Custody.safe_updateJobStatus_reports Store.Leaves.report _ _)
  rintro session started underway ⟨-, unloaded⟩
  apply settles_await underway
  · trivial
  intro rawContext _ fetched _ _ _ underway
  apply settles_await underway
  · trivial
  intro now _ later _ _ _ underway
  apply settles_await underway
  · intro _ completed
    cases completed
  intro _ _ shown _ _ _ underway
  apply settles_bind underway (unfinished_updateJobStatus _ _ _)
    (Custody.safe_updateJobStatus_reports Store.Leaves.report _ _)
  rintro prepared updated underway ⟨-, same⟩
  apply settles_then underway
  · apply (uses_analysisStage env jobId rawContext _).mono
    intro op analysis
    cases op with
    | setState snapshot =>
        intro _ completed
        rw [analysis.2] at completed
        cases completed
    | _ => trivial
  intro analysis analysed underway
  apply settles_completionStage _ _ _ underway
  rw [same prepared rfl, unloaded session rfl]
  rfl

/-- A call of the pipeline before it has set its first snapshot. -/
theorem settles_before {op : Op} {next : op.Reply → Coroutine α} (accounts : Accounts jobId state)
    (enqueued : state.Enqueued jobId) (spares : Op.Spares jobId op)
    (rest : ∀ value before now outcome, state.Leaves jobId before →
      exec op outcome before = some (.ok value, now) → Accounts jobId now →
      now.Enqueued jobId → Settles jobId (next value) now) :
    Settles jobId ((await op).bind next) state := by
  apply (waiting jobId).await ⟨accounts, enqueued⟩ spares
  rintro value before now left ⟨outcome, -, called⟩ ⟨accounts, enqueued⟩
  exact rest value before now outcome left called accounts enqueued

theorem settles_executeResearchPipeline (env : Environment) (message : ResearchJobMessage)
    (accounts : Accounts message.jobId state) (enqueued : state.Enqueued message.jobId) :
    Settles message.jobId (executeResearchPipeline env message) state := by
  unfold executeResearchPipeline
  cases parseGithubRepositoryUrl env.urlLibrary message.repoUrl with
  | error error => exact Program.safe_raise.mpr fun _ accounts _ => accounts
  | ok target =>
      apply settles_before accounts enqueued
      · trivial
      intro existing _ read _ _ _ accounts enqueued
      apply settles_before accounts enqueued
      · trivial
      intro now _ later _ _ _ accounts enqueued
      apply settles_before accounts enqueued
      · intro _ completed
        cases completed
      intro _ before shown outcome _ called accounts enqueued
      apply settles_withSession accounts
      apply settles_pipelineSession env target
      refine ⟨enqueued, ?_⟩
      -- the snapshot that has been set is not a completed one
      rintro ⟨snapshot, found, completed⟩
      rw [setState_ok called, Store.putSnapshot_snapshots] at found
      rcases update_eq_some found with ⟨-, same⟩ | ⟨other, -⟩
      · cases same
        cases completed
      · exact other rfl

theorem settles_settle (settings : Settings) (received : ReceivedMessage)
    (outcome : Except Exn Unit) (accounts : Accounts received.body.jobId state) :
    Settles received.body.jobId (settle settings received outcome) state := by
  apply settles_of_spares _ accounts
  apply (uses_settle settings received outcome).mono
  intro op settling
  cases op with
  | setState snapshot =>
      intro _ completed
      cases settling.2.1.symm.trans completed
  | insertReport | updateReport | send => cases settling
  | _ => trivial

/-! ## Submissions -/

/-- A submission that hits the AI cache sends nothing, and its snapshots say
nothing about a fallback. -/
theorem settles_completeFromCache (session : Session) (rawContext : RepositoryRawContext)
    (now : DateTime) (cachedAi : StructuredAIResponse) (unsent : ¬ state.Enqueued jobId)
    (unflagged : ShownUnflagged jobId state) :
    Settles jobId (completeFromCache session jobId rawContext
      (pendingSnapshot jobId now rawContext.instantData) cachedAi) state := by
  have uses := (uses_completeFromCache session jobId rawContext now cachedAi).and
    (quiet_completeFromCache session jobId rawContext now cachedAi)
  have safe : (completeFromCache session jobId rawContext
      (pendingSnapshot jobId now rawContext.instantData) cachedAi).Safe (terms jobId)
      (fun _ now => ¬ now.Enqueued jobId ∧ ShownUnflagged jobId now) state := by
    apply uses.safe
    · rintro op before reply after ⟨submission, quiet⟩ - ⟨unsent, unflagged⟩ ⟨outcome, -, called⟩
      have written := written_of_exec called
      have still : ¬ after.Enqueued jobId := by
        rw [enqueued_iff_of_written written]
        · exact unsent
        · rintro message rfl
          exact absurd trivial quiet
      have shown : ShownUnflagged jobId after := by
        cases written with
        | snapshot snapshot =>
            intro stored found completed
            rcases update_eq_some found with ⟨-, same⟩ | ⟨-, found⟩
            · cases same
              exact submission.unflagged
            · exact unflagged stored found completed
        | _ => exact unflagged
      exact ⟨⟨fun sent => absurd sent still, fun _ => shown⟩, trivial, still, shown⟩
    · rintro before after left ⟨unsent, unflagged⟩
      exact ⟨fun sent => unsent ((enqueued_of_leaves left).mp sent),
        fun stored found => unflagged stored (shown_of_expires left.snapshot found)⟩
    · exact ⟨unsent, unflagged⟩
  exact safe.weaken fun _ _ accounts _ => accounts

/-- A submission that misses the AI cache does not complete its job. -/
theorem unfinished_enqueueJob (session : Session) (target : ParsedRepoTarget)
    (request : ResearchRequest) (now : DateTime) (instantData : InstantMetadata) :
    (enqueueJob session target request jobId (pendingSnapshot jobId now instantData)).Uses
      (Op.Unfinished jobId) := by
  apply Program.Uses.perform_bind
  · trivial
  intro enqueuedAt
  apply Program.Uses.bind
  · exact Program.Uses.attempt (.perform trivial)
  intro sent
  cases sent with
  | ok _ => exact Program.uses_pure _
  | error error =>
      apply Program.Uses.bind
      · exact unfinished_updateJobStatus _ _ _
      intro updated
      apply Program.Uses.perform_bind
      · trivial
      intro later
      apply Program.Uses.perform_bind
      · intro _ completed
        cases completed
      intro _
      exact Program.uses_raise _

/-- Before it looks into the AI cache a submission sends nothing and completes
nothing. -/
structure Fresh (jobId : JobId) (store : Store) : Prop where
  unsent : ¬ store.Enqueued jobId
  unfinished : ¬ store.ShowsCompleted jobId

/-- A submission that has not looked into the AI cache. -/
def starting (jobId : JobId) : Phase (terms jobId) where
  allowed op := Op.Spares jobId op ∧ Op.Unfinished jobId op
  fact := Fresh jobId
  implies fresh := .of_unfinished fresh.unfinished
  stable left fresh :=
    ⟨fun sent => fresh.unsent ((enqueued_of_leaves left).mp sent),
      unfinished_leave left fresh.unfinished⟩
  kept := by
    rintro op before reply after ⟨spares, leaves⟩ fresh ⟨outcome, -, called⟩
    have written := written_of_exec called
    refine ⟨⟨?_, unfinished_written written leaves fresh.unfinished⟩, trivial⟩
    rw [enqueued_iff_of_written written]
    · exact fresh.unsent
    · rintro message rfl
      exact spares

theorem settles_fresh {op : Op} {next : op.Reply → Coroutine α} (fresh : Fresh jobId state)
    (spares : Op.Spares jobId op) (leaves : Op.Unfinished jobId op)
    (rest : ∀ value now, Fresh jobId now → Settles jobId (next value) now) :
    Settles jobId ((await op).bind next) state := by
  apply (starting jobId).await fresh ⟨spares, leaves⟩
  intro value _ now _ _ still
  exact rest value now still

theorem settles_announceJob {target : ParsedRepoTarget} {rawContext : RepositoryRawContext}
    (request : ResearchRequest) (fresh : Fresh jobId state) :
    Settles jobId ((await (.refreshJob jobId)).bind fun refreshed =>
      announceJob (Session.empty.loadJob jobId refreshed) target request rawContext jobId)
      state := by
  apply settles_fresh fresh
  · trivial
  · trivial
  intro refreshed loaded fresh
  apply settles_fresh fresh
  · trivial
  · trivial
  intro now later fresh
  apply settles_fresh fresh
  · intro _ completed
    cases completed
  · intro _ completed
    cases completed
  intro _ shown fresh
  apply settles_fresh fresh
  · trivial
  · trivial
  intro cached looked fresh
  cases cached with
  | some cachedAi =>
      exact settles_completeFromCache _ _ _ _ fresh.unsent (.of_unfinished fresh.unfinished)
  | none => exact settles_of_unfinished (unfinished_enqueueJob _ _ _ _ _) fresh.unfinished

end

/-! ## Runs -/

section

-- the programs are used through what was shown of them only
attribute [local irreducible] submitResearchJob executeResearchPipeline settle

/-- Every program accounts for its job. -/
theorem upheld (env : Environment) : tenancy.Upheld env where
  absent jobId store lacks := by
    apply Accounts.of_unfinished
    rintro ⟨snapshot, found, -⟩
    cases lacks.snapshot.symm.trans found
  registered target rawContext jobId store founded := by
    apply Accounts.of_unfinished
    rintro ⟨snapshot, found, -⟩
    cases founded.snapshot.symm.trans found
  founds context request := by
    apply Tenancy.founds_submit
    intro target rawContext jobId store founded _
    have fresh : Fresh jobId store := by
      constructor
      · rintro ⟨id, about⟩
        exact founded.unsent id about
      · rintro ⟨snapshot, found, -⟩
        cases founded.snapshot.symm.trans found
    exact ⟨.of_unfinished fresh.unfinished, settles_announceJob request fresh⟩
  works history id message body store accounts found named _ _ _ _ _ := by
    have about : (store.putQueue (store.queue.markReceived id)).queue.jobAt id =
        some body.jobId := by
      rw [Store.putQueue_queue, (Queue.moves_markReceived _ _).jobAt, Queue.jobAt_of_found found,
        named, MessageBody.jobId?]
    have kept : Accounts body.jobId (store.putQueue (store.queue.markReceived id)) :=
      Accounts.receive id accounts
    refine ⟨kept, ?_⟩
    have settles := settles_executeResearchPipeline env body kept ⟨id, about⟩
    apply Program.Safe.weaken settles
    intro outcome now _ accounts
    exact ⟨accounts, settles_settle env.settings (message.delivery id body) outcome accounts⟩
  refuses history id message body store accounts _ _ _ _ _ := Accounts.receive id accounts
  crashes stage history store _ accounts _ := accounts

end

end Reconstruction

open Reconstruction

/-- In a run with one task at a time on a job, polls of a completed job agree
before and after its snapshot has expired if and only if the job was queued. -/
theorem polls_agree_iff {env : Environment} {dlqArn : String}
    {aiCache : String → Option CachedPayload} {actions : List Action} {service : Service}
    (ran : runWithin (Service.step env) oneAtATime actions
      (Service.initial env.settings dlqArn aiCache) = some service) {jobId : JobId}
    (completed : service.store.ShowsCompleted jobId) :
    PollsAgree jobId service.store ↔ service.store.Enqueued jobId := by
  have kept := (upheld env).run (runWithin_mono (allows_of_oneAtATime env) ran)
  have accounts : Accounts jobId service.store :=
    kept.everywhere (fun _ _ => id) (fun _ _ _ => id) jobId
  constructor
  · intro agree
    by_contra unsent
    obtain ⟨snapshot, found, shown⟩ := completed
    have unflagged := accounts.unsent unsent snapshot found shown
    refine not_pollsAgree found shown (fun record _ same => ?_) agree
    cases unflagged.symm.trans same
  · intro enqueued
    exact (accounts.enqueued enqueued completed).pollsAgree

theorem showsCompleted_of_any {store : Store} {jobId : JobId}
    (shown : (store.snapshots jobId).any fun snapshot => snapshot.status = .completed) :
    store.ShowsCompleted jobId := by
  obtain ⟨snapshot, found, completed⟩ := (Option.any_eq_true _ _).mp shown
  exact ⟨snapshot, found, of_decide_eq_true completed⟩

/-- A job that is queued, delivered and completed without an analysis. -/
def delivered : List Action :=
  Sample.submission ++
    .deliver 0 :: Sample.calls 1 (Sample.unanalyzed (.llmUnavailable "down"))

theorem polls_agree_delivered :
    ∃ service, runWithin (Service.step Sample.environment) oneAtATime delivered Sample.cold =
        some service ∧ PollsAgree "job-1" service.store :=
  ⟨_, Sample.ran_after (by decide +kernel),
    (polls_agree_iff (Sample.ran_after (by decide +kernel))
      (showsCompleted_of_any (by decide +kernel))).mpr ⟨0, by decide +kernel⟩⟩

open Sample in
/-- Two executions of one job: the first one saves the report of a fallback, the
second one replaces it by its analysis, and then the first one sets the
snapshot. -/
def overlapping : List Action :=
  submission ++ .deliver 0 ::
    (calls 1 (fetched ++ [.done (.time noon), .ok, .failed (.llmUnavailable "down"),
      .done (.time noon), .done (.flag true), .done (.time noon), .ok, .ok,
      .done (.flag true), .ok, .ok, .done (.time noon)]) ++ .timeout 0 :: .deliver 0 ::
    (calls 2 (fetched ++ [.done (.time noon), .ok, .done (.insights insights), .ok,
      .done (.time noon), .done (.flag true), .ok]) ++ calls 1 [.ok]))

theorem differs_of_any {store : Store} {jobId : JobId}
    (shown : (store.snapshots jobId).any fun snapshot => snapshot.status = .completed ∧
      (store.reports jobId).any fun record =>
        snapshot.aiFallback ≠ (reportSnapshot jobId (reportOfRecord record)).aiFallback) :
    store.ShowsCompleted jobId ∧ ¬ PollsAgree jobId store := by
  obtain ⟨snapshot, found, said⟩ := (Option.any_eq_true _ _).mp shown
  obtain ⟨completed, other⟩ := of_decide_eq_true said
  refine ⟨⟨snapshot, found, completed⟩, not_pollsAgree found completed fun record stored => ?_⟩
  rw [stored] at other
  exact of_decide_eq_true other

/-- A submission that hits the AI cache, and two executions that overlap. -/
theorem polls_differ :
    (∃ service, runWithin (Service.step Sample.environment) oneAtATime Sample.cachedSubmission
        Sample.warm = some service ∧ service.store.ShowsCompleted "job-1" ∧
        ¬ PollsAgree "job-1" service.store) ∧
      ∃ service, runWithin (Service.step Sample.environment) (fun _ _ => true) overlapping
        Sample.cold = some service ∧ service.store.ShowsCompleted "job-1" ∧
        ¬ PollsAgree "job-1" service.store :=
  ⟨⟨_, Sample.ran_after (by decide +kernel), differs_of_any (by decide +kernel)⟩,
    ⟨_, Sample.ran_after (by decide +kernel), differs_of_any (by decide +kernel)⟩⟩

end ResearchTool
