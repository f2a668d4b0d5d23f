import ResearchTool.Visibility

/-!
# Polls of known jobs

A poll looks for the snapshot and then for the report, never for the job row.
It answers 404 exactly when it finds neither, whether or not the job exists.
-/

namespace ResearchTool

open Process

/-- The answer is a 404. -/
def Answer.isNotFound : Answer → Bool
  | problem response => response.statusCode == 404
  | _ => false

/-- The task is a poll of a job whose row existed, and it ended in a 404. -/
def Task.lostJob : Task → Bool
  | poll _ true (.pure answer) => answer.isNotFound
  | _ => false

/-- No poll of a known job has been answered with a 404. -/
def Service.KnownJobsFound (service : Service) : Prop :=
  ∀ task ∈ service.tasks, task.lostJob = false

/-- The operation is a look at the report table. -/
def Op.looksForReport : Op → Bool
  | selectReport _ => true
  | _ => false

/-- When a poll of a known job gets to look at the report table, the report is
there. -/
def findsReport (action : Action) (service : Service) : Bool :=
  match action with
  | .resume index outcome =>
      match service.tasks[index]? with
      | some (.poll jobId true program) =>
          outcome.faulty || !program.pending.any Op.looksForReport ||
            (service.store.reports jobId).isSome
      | _ => true
  | _ => true

/-- The stages of a poll. -/
inductive PollStage (store : Store) (jobId : JobId) : Coroutine Answer → Prop where
  | started (context : RequestContext) : PollStage store jobId (getResearchJobStatus context jobId)
  | missed (context : RequestContext) :
      PollStage store jobId (answering context .status (pollWithoutSnapshot jobId))
  | completed (context : RequestContext) (snapshot : ResearchJobStateSnapshot)
      (reported : (store.reports jobId).isSome) :
      PollStage store jobId (answering context .status
        ((loadReport .empty jobId).bind fun report => .pure (pollingResponse snapshot report)))
  | answered (answer : Answer) : PollStage store jobId (.pure answer)

/-- Redis and the database raise nothing that is answered with a 404. -/
theorem exceptionResponse_not_found {context : RequestContext} {party : Party} {error : Exn}
    (storage : party = .redis ∨ party = .database) (raised : party.mayRaise error = true) :
    (Answer.problem (exceptionResponse context error)).isNotFound = false := by
  rcases storage with rfl | rfl <;> cases error <;> first | rfl | cases raised

/-- Reading a snapshot or the report table fails by a fault only. -/
theorem faulty_of_read_error {op : Op} {jobId : JobId}
    (read : op = .getState jobId ∨ op = .selectReport jobId) {outcome : Outcome}
    {store after : Store} {error : Exn}
    (called : exec op outcome store = some (.error error, after)) (context : RequestContext) :
    outcome.faulty = true ∧
      (Answer.problem (exceptionResponse context error)).isNotFound = false := by
  rcases exec_error called with ⟨supply, -, answered⟩ | ⟨faulty, raised⟩
  · rcases read with rfl | rfl <;> cases supply <;> simp [answer] at answered
  · rcases read with rfl | rfl
    · exact ⟨faulty, exceptionResponse_not_found (.inl rfl) raised⟩
    · exact ⟨faulty, exceptionResponse_not_found (.inr rfl) raised⟩

/-- A call that returns was not at fault. -/
theorem faulty_of_exec_ok {op : Op} {outcome : Outcome} {store after : Store} {value : op.Reply}
    (called : exec op outcome store = some (.ok value, after)) : outcome.faulty = false := by
  obtain ⟨supply, rfl, -⟩ := answer_of_exec_ok called
  rfl

/-- What the end of a poll's pending call has to be: the next stage, and a 404
exactly when a report was looked for in vain. -/
def PollStage.Advances (store after : Store) (jobId : JobId) (op : Op) (outcome : Outcome)
    (next : Coroutine Answer) : Prop :=
  PollStage after jobId next ∧
    ((Task.poll jobId true next).lostJob = true ↔
      outcome.faulty = false ∧ op.looksForReport = true ∧ store.reports jobId = none)

theorem advances_error {op : Op} {jobId : JobId}
    (read : op = .getState jobId ∨ op = .selectReport jobId) {outcome : Outcome}
    {store after : Store} {error : Exn}
    (called : exec op outcome store = some (.error error, after)) (context : RequestContext) :
    PollStage.Advances store after jobId op outcome
      (.pure (.problem (exceptionResponse context error))) := by
  obtain ⟨faulty, failed⟩ := faulty_of_read_error read called context
  exact ⟨.answered _, by simp [Task.lostJob, failed, faulty]⟩

/-- After the snapshot is missed, the poll looks for the report. -/
theorem advances_missed {jobId : JobId} {outcome : Outcome} {store after : Store}
    (context : RequestContext) :
    PollStage.Advances store after jobId (.getState jobId) outcome
      (answering context .status (pollWithoutSnapshot jobId)) := by
  refine ⟨.missed context, ?_⟩
  simp [pollWithoutSnapshot, loadReport_bind, answering_await, Task.lostJob, Op.looksForReport]

/-- A completed snapshot has its report; with any other the poll is done. -/
theorem advances_found {jobId : JobId} {outcome : Outcome} {store after : Store}
    {snapshot : ResearchJobStateSnapshot} (first : ReportsFirst after)
    (found : after.snapshots jobId = some snapshot) (context : RequestContext) :
    PollStage.Advances store after jobId (.getState jobId) outcome
      (answering context .status (pollWithSnapshot jobId snapshot)) := by
  by_cases completed : snapshot.status = .completed
  · have reported := first.snapshot jobId snapshot found completed
    rw [pollWithSnapshot, if_pos completed]
    refine ⟨.completed context snapshot reported, ?_⟩
    simp [loadReport_bind, answering_await, Task.lostJob, Op.looksForReport]
  · rw [pollWithSnapshot, if_neg completed]
    exact ⟨.answered _, by simp [Task.lostJob, Answer.isNotFound, Op.looksForReport]⟩

/-- After the report table is read, the poll is done. -/
theorem advances_report {jobId : JobId} {outcome : Outcome} {store after : Store}
    {selected : Selected FinalResearchReportRecord}
    (called : exec (.selectReport jobId) outcome store = some (.ok selected, after))
    (context : RequestContext) :
    PollStage.Advances store after jobId (.selectReport jobId) outcome
      (answering context .status
        (match selected.row.map reportOfRecord with
          | none => Program.raise (.researchProblem (jobNotFound jobId))
          | some report =>
              .pure (pollingResponse (reportSnapshot jobId report) (some report)))) := by
  have sound := faulty_of_exec_ok called
  obtain ⟨selectedRow, rfl⟩ := selectReport_ok called
  rw [selectedRow]
  cases stored : after.reports jobId with
  | none => exact ⟨.answered _, by simp [Task.lostJob, Answer.isNotFound, sound,
      Op.looksForReport, exceptionResponse, problemResponse, jobNotFound, stored]⟩
  | some report => exact ⟨.answered _, by simp [Task.lostJob, Answer.isNotFound, stored]⟩

/-- The end of a poll's pending call brings it to its next stage. -/
theorem PollStage.advances {store after : Store} {jobId : JobId} {program : Coroutine Answer}
    (stage : PollStage store jobId program) (first : ReportsFirst store) {op : Op}
    {next : Except Exn op.Reply → Coroutine Answer} (pending : program = .call op next)
    {outcome : Outcome} {reply : Except Exn op.Reply}
    (called : exec op outcome store = some (reply, after)) :
    PollStage.Advances store after jobId op outcome (next reply) := by
  cases stage with
  | started context =>
      rw [getResearchJobStatus, pollJob, Program.bind_eq, answering_await] at pending
      cases pending
      cases reply with
      | ok found =>
          obtain ⟨read, rfl⟩ := getState_ok called
          cases found with
          | none => exact advances_missed context
          | some snapshot => exact advances_found first read.symm context
      | error error => exact advances_error (.inl rfl) called context
  | missed context =>
      rw [pollWithoutSnapshot, Program.bind_eq, loadReport_bind, answering_await] at pending
      cases pending
      cases reply with
      | ok selected => exact advances_report called context
      | error error => exact advances_error (.inr rfl) called context
  | completed context snapshot reported =>
      rw [loadReport_bind, answering_await] at pending
      cases pending
      cases reply with
      | ok selected =>
          refine ⟨.answered _, ?_⟩
          have present : store.reports jobId ≠ none := Option.isSome_iff_ne_none.mp reported
          simp [Task.lostJob, Answer.isNotFound, present]
      | error error => exact advances_error (.inr rfl) called context
  | answered answer => cases pending

theorem PollStage.grow {before after : Store} (grows : before.Grows after) {jobId : JobId}
    {program : Coroutine Answer} (stage : PollStage before jobId program) :
    PollStage after jobId program := by
  cases stage with
  | started context => exact .started context
  | missed context => exact .missed context
  | completed context snapshot reported =>
      exact .completed context snapshot (grows.reports jobId reported)
  | answered answer => exact .answered answer

/-! ## Runs -/

/-- Every poll is at one of its stages. -/
def Service.PollsStaged (service : Service) : Prop :=
  ∀ jobId known program, .poll jobId known program ∈ service.tasks →
    PollStage service.store jobId program

/-- What a step has to do about polls: it keeps them staged, and it loses a
known job exactly when it looks for its report in vain. -/
structure Service.PollStep (action : Action) (service after : Service) : Prop where
  staged : after.PollsStaged
  found : service.KnownJobsFound → (after.KnownJobsFound ↔ findsReport action service = true)

/-- A step that starts at most one task, and no answered one. -/
theorem Service.PollStep.spawn {action : Action} {service after : Service}
    (grows : service.store.Grows after.store) (staged : service.PollsStaged)
    (harmless : findsReport action service = true)
    (tasks : ∀ task ∈ after.tasks, task ∈ service.tasks ∨ (task.lostJob = false ∧
      ∀ jobId known program, task = .poll jobId known program →
        PollStage after.store jobId program)) : service.PollStep action after where
  staged jobId known program member := by
    rcases tasks _ member with old | ⟨-, new⟩
    · exact (staged jobId known program old).grow grows
    · exact new jobId known program rfl
  found known := by
    refine ⟨fun _ => harmless, fun _ task member => ?_⟩
    rcases tasks task member with old | ⟨unlost, -⟩
    · exact known task old
    · exact unlost

theorem Task.working_not_poll (settings : Settings) (received : ReceivedMessage)
    (pipeline : Coroutine Unit) :
    (Task.working settings received pipeline).lostJob = false ∧
      ∀ jobId known program,
        Task.working settings received pipeline ≠ .poll jobId known program := by
  cases pipeline <;> exact ⟨rfl, nofun⟩

/-- One call of a poll. -/
theorem Service.pollStep_poll {service : Service} (visible : service.Visible)
    (staged : service.PollsStaged) {index : Nat} {outcome : Outcome} {jobId : JobId}
    {known : Bool} {op : Op} {next : Except Exn op.Reply → Coroutine Answer}
    (found : service.tasks[index]? = some (.poll jobId known (.call op next)))
    {reply : Except Exn op.Reply} {after : Store}
    (called : exec op outcome service.store = some (reply, after)) :
    service.PollStep (.resume index outcome)
      { service.setTask index (.poll jobId known (next reply)) with store := after } := by
  have stage := staged jobId known _ (List.mem_of_getElem? found)
  have grows := (written_of_exec called).grows
  obtain ⟨advanced, lost⟩ := stage.advances visible.store rfl called
  have within : index < service.tasks.length := (List.getElem?_eq_some_iff.mp found).1
  refine ⟨fun other otherKnown program member => ?_, fun allFound => ?_⟩
  · rcases List.mem_or_eq_of_mem_set member with old | same
    · exact (staged other otherKnown program old).grow grows
    · cases same
      exact advanced
  have condition : (Task.poll jobId known (next reply)).lostJob = false ↔
      findsReport (.resume index outcome) service = true := by
    cases known with
    | false => simp [Task.lostJob, findsReport, found]
    | true =>
        rw [← Bool.not_eq_true, lost]
        simp only [findsReport, found, Program.pending, Option.any_some]
        cases outcome.faulty <;> cases op.looksForReport <;>
          cases service.store.reports jobId <;> simp
  constructor
  · intro kept
    exact condition.mp (kept _ (List.mem_set within _))
  · intro reports task member
    rcases List.mem_or_eq_of_mem_set member with old | rfl
    · exact allFound task old
    · exact condition.mpr reports

theorem Step.pollStep {env : Environment} {action : Action} {service after : Service}
    (moved : Step env service action after) (visible : service.Visible)
    (staged : service.PollsStaged) : service.PollStep action after := by
  have grows := moved.grows
  cases moved with
  | submit context request =>
      refine .spawn grows staged rfl fun task member => ?_
      rcases List.mem_append.mp member with old | new
      · exact .inl old
      · rw [List.mem_singleton.mp new]
        exact .inr ⟨rfl, nofun⟩
  | poll context jobId =>
      refine .spawn grows staged rfl fun task member => ?_
      rcases List.mem_append.mp member with old | new
      · exact .inl old
      · rw [List.mem_singleton.mp new]
        refine .inr ⟨?_, fun other known program same => ?_⟩
        · rw [getResearchJobStatus, pollJob, Program.bind_eq, answering_await]
          cases (service.store.jobs jobId).isSome <;> rfl
        · cases same
          exact .started context
  | deliver id message body found visible' below named =>
      refine .spawn grows staged rfl fun task member => ?_
      rcases List.mem_append.mp member with old | new
      · exact .inl old
      · rw [List.mem_singleton.mp new]
        obtain ⟨unlost, other⟩ := Task.working_not_poll env.settings (message.delivery id body)
          (executeResearchPipeline env body)
        exact .inr ⟨unlost, fun jobId known program same => absurd same (other _ _ _)⟩
  | resume index outcome task next store found resumes =>
      cases resumes with
      | poll jobId known op resume reply called =>
          exact Service.pollStep_poll visible staged found called
      | submit job op resume reply called =>
          refine .spawn grows staged (by simp [findsReport, found]) fun task member => ?_
          rcases List.mem_or_eq_of_mem_set member with old | rfl
          · exact .inl old
          · exact .inr ⟨rfl, nofun⟩
      | execute received op resume reply called =>
          refine .spawn grows staged (by simp [findsReport, found]) fun task member => ?_
          rcases List.mem_or_eq_of_mem_set member with old | rfl
          · exact .inl old
          · obtain ⟨unlost, other⟩ := Task.working_not_poll env.settings received (resume reply)
            exact .inr ⟨unlost, fun jobId known program equal => absurd equal (other _ _ _)⟩
      | settle received ended op resume reply called =>
          refine .spawn grows staged (by simp [findsReport, found]) fun task member => ?_
          rcases List.mem_or_eq_of_mem_set member with old | rfl
          · exact .inl old
          · exact .inr ⟨rfl, nofun⟩
  | crash index task found live =>
      refine .spawn grows staged rfl fun task member => ?_
      rcases List.mem_or_eq_of_mem_set member with old | rfl
      · exact .inl old
      · exact .inr ⟨rfl, nofun⟩
  | reject | expireSnapshot | expireCached | timeout | redrive =>
      exact .spawn grows staged rfl fun task member => .inl member

theorem Task.finished_of_lostJob {task : Task} (lost : task.lostJob = true) :
    task.isLive = false := by
  unfold lostJob at lost
  split at lost
  · rfl
  · cases lost

/-- A lost job stays lost. -/
theorem Step.knownJobsFound {env : Environment} {action : Action} {service after : Service}
    (moved : Step env service action after) (found : after.KnownJobsFound) :
    service.KnownJobsFound := by
  intro task member
  obtain ⟨index, present⟩ := List.mem_iff_getElem?.mp member
  by_contra lost
  have lost := Bool.not_eq_false _ ▸ lost
  have kept := moved.finished_kept present (Task.finished_of_lostJob lost)
  rw [found task (List.mem_of_getElem? kept)] at lost
  cases lost

theorem run_knownJobsFound {env : Environment} {actions : List Action} {service final : Service}
    (ran : run (Service.step env) actions service = some final)
    (found : final.KnownJobsFound) : service.KnownJobsFound := by
  by_contra lost
  have preserved : ∀ action state next, True → Service.step env action state = some next →
      ¬ state.KnownJobsFound → ¬ next.KnownJobsFound :=
    fun _ _ _ _ moved lost found => lost ((Service.step_cases moved).knownJobsFound found)
  exact runWithin_induction _ (fun action state next _ => preserved action state next trivial)
    lost ran found

/-- From a state in which no known job has been lost, a run loses none if and
only if every poll of a known job that looks for the report finds it. -/
theorem knownJobsFound_iff_from {env : Environment} {actions : List Action}
    {service final : Service} (visible : service.Visible) (staged : service.PollsStaged)
    (found : service.KnownJobsFound)
    (ran : run (Service.step env) actions service = some final) :
    final.KnownJobsFound ↔
      (runWithin (Service.step env) findsReport actions service).isSome = true := by
  induction actions generalizing service with
  | nil =>
      cases ran
      simp [runWithin, found]
  | cons action rest ih =>
      obtain ⟨-, next, moved, remaining⟩ := runWithin_cons_eq_some_iff.mp ran
      have cases := Service.step_cases moved
      have step := cases.pollStep visible staged
      rw [runWithin, moved, Option.bind_some]
      by_cases finds : findsReport action service = true
      · rw [if_pos finds]
        exact ih (cases.visible visible) step.staged ((step.found found).mpr finds) remaining
      · rw [if_neg finds]
        simp only [Option.isSome_none, Bool.false_eq_true, iff_false]
        exact fun kept => finds ((step.found found).mp (run_knownJobsFound remaining kept))

/-- In every run, no poll of a job whose row exists is answered with a 404 if
and only if every such poll that looks at the report table finds the report
there. -/
theorem known_jobs_found_iff {env : Environment} {dlqArn : String}
    {aiCache : String → Option CachedPayload} {actions : List Action} {service : Service}
    (ran : run (Service.step env) actions
      (Service.initial env.settings dlqArn aiCache) = some service) :
    service.KnownJobsFound ↔
      (runWithin (Service.step env) findsReport actions
        (Service.initial env.settings dlqArn aiCache)).isSome = true :=
  knownJobsFound_iff_from (Service.visible_initial _ _ _) (fun _ _ _ member => by cases member)
    (fun _ member => by cases member) ran

/-- A poll while the snapshot is there finds the pending job. -/
theorem known_jobs_found_with_snapshot :
    ∃ service, run (Service.step Sample.environment)
        (Sample.submission ++ .poll Sample.context "job-1" :: Sample.calls 1 [.ok])
        Sample.cold = some service ∧ service.KnownJobsFound :=
  ⟨_, Sample.ran_after (by decide),
    (known_jobs_found_iff (Sample.ran_after (by decide))).mpr (by decide)⟩

/-- The snapshot of a job that is still queued expires: the next poll answers
that the job does not exist. -/
theorem pending_job_not_found :
    ∃ service, run (Service.step Sample.environment)
        (Sample.submission ++ [.expireSnapshot "job-1", .poll Sample.context "job-1"] ++
          Sample.calls 1 [.ok, .done (.flag true)]) Sample.cold = some service ∧
      (service.store.jobs "job-1").isSome = true ∧
      service.tasks[1]? = some (.poll "job-1" true
        (.pure (.problem (problemResponse (jobNotFound "job-1") Sample.context none)))) :=
  ⟨_, Sample.ran_after (by decide), by decide, rfl⟩

end ResearchTool
