import ResearchTool.Terms

/-!
# Metadata once shown

Snapshots are written whole.  All but two of their writers put the instant
metadata of the repository in: the failure branch of the worker leaves it out,
and a pipeline that starts when the snapshot has expired has none to take over.
-/

namespace ResearchTool

open Process

/-- The poll that is task `index` has returned the response. -/
def Service.Polled (service : Service) (index : Nat) (jobId : JobId)
    (response : PollingStatusResponse) : Prop :=
  ∃ known, service.tasks[index]? = some (.poll jobId known (.pure (.status response)))

/-- Once a poll of the job has shown its metadata, the polls that return later
show metadata too. -/
def NeverWithdrawn (jobId : JobId) (earlier later : Service) : Prop :=
  ∀ (first second : Nat) (shown response : PollingStatusResponse),
    earlier.Polled first jobId shown → shown.instantData.isSome →
    later.Polled second jobId response → ¬ earlier.Polled second jobId response →
    response.instantData.isSome

/-- A worker's call that drops the metadata of its job: the failed snapshot is
written, or the snapshot to take it from is missing. -/
def withdraws (role : Role) (op : Op) (outcome : Outcome) (store : Store) : Bool :=
  match role, op with
  | .worker _, .setState snapshot => snapshot.status == .failed && outcome.takesEffect
  | .worker _, .getState jobId => (store.snapshots jobId).isNone && !outcome.faulty
  | _, _ => false

/-- No call drops the metadata of its job. -/
def withdrawsNothing (action : Action) (service : Service) : Bool :=
  match action with
  | .resume index outcome =>
      service.tasks[index]?.all fun task =>
        task.pending.all fun op => !withdraws task.role op outcome service.store
  | _ => true

namespace InstantData

/-- Every snapshot carries metadata. -/
def Carries (store : Store) : Prop :=
  ∀ jobId snapshot, store.snapshots jobId = some snapshot → snapshot.instantData.isSome

/-- Nothing is withdrawn, and every poll shows metadata. -/
def terms : Terms where
  invariant := Carries
  rely _ _ _ _ := True
  allows role _ op outcome store := withdraws role op outcome store = false
  guarantee _ _ _ := True
  answers role answer := ∀ jobId response, role = .poller jobId → answer = .status response →
    response.instantData.isSome
  rely_refl _ _ _ := trivial
  rely_trans _ _ := trivial

theorem Carries.putSnapshot {store : Store} (carries : Carries store)
    {snapshot : ResearchJobStateSnapshot} (carried : snapshot.instantData.isSome) :
    Carries (store.putSnapshot snapshot) := by
  intro jobId stored found
  rcases update_eq_some found with ⟨-, same⟩ | ⟨-, found⟩
  · cases same
    exact carried
  · exact carries jobId stored found

/-- A call that is carried out leaves the snapshots, or writes one. -/
theorem carries_of_written {op : Op} {store after : Store} (written : Written store op after)
    (carries : Carries store)
    (carried : ∀ snapshot, op = .setState snapshot → after ≠ store → snapshot.instantData.isSome) :
    Carries after := by
  cases written with
  | snapshot snapshot =>
      by_cases same : store.putSnapshot snapshot = store
      · rw [same]
        exact carries
      · exact carries.putSnapshot (carried snapshot rfl same)
  | _ => exact carries

/-- The snapshot that the call writes, if it writes one, carries metadata. -/
def Op.Carried : Op → Prop
  | .setState snapshot => snapshot.instantData.isSome
  | _ => True

theorem harmless_of_carried {role : Role} {op : Op} (carried : Op.Carried op) :
    terms.Harmless role op := by
  intro trace before outcome reply after carries _ _ called
  refine ⟨carries_of_written (written_of_exec called) carries ?_, trivial, trivial⟩
  rintro snapshot rfl -
  exact carried

/-- The handling of an outcome writes no snapshot that is let through. -/
theorem harmless_of_settling {received : ReceivedMessage} {op : Op}
    (settling : op.IsSettling received) : terms.Harmless (.worker received) op := by
  intro trace before outcome reply after carries _ allowed called
  refine ⟨carries_of_written (written_of_exec called) carries ?_, trivial, trivial⟩
  rintro snapshot rfl changed
  obtain ⟨-, failed, -⟩ := settling
  have idle : outcome.takesEffect = false := by
    simpa [terms, withdraws, failed] using allowed
  exact absurd (eq_of_not_takesEffect called idle) changed

theorem carried_of_submit {op : Op} (submit : op.IsSubmit) : Op.Carried op := by
  cases op with
  | setState snapshot =>
      obtain ⟨jobId, submission⟩ := submit
      exact submission.carries
  | _ => trivial

theorem carried_of_session {jobId : JobId} {op : Op} (session : op.IsSession jobId) :
    Op.Carried op := by
  cases op with
  | setState snapshot => exact session.carries
  | _ => trivial

/-! ## The programs -/

theorem safe_submit (env : Environment) (context : RequestContext) (request : ResearchRequest)
    (state : Store × Trace) :
    (submitResearchJob env context request).Safe (terms.protocol .submitter) (fun result _ =>
      ∀ answer, result = .ok answer → terms.answers .submitter answer) state := by
  apply Terms.safe_of_uses
  · apply (uses_answering context .accepted (uses_submit env request)).mono
    intro op submit
    exact harmless_of_carried (carried_of_submit submit)
  · intro _ _ answer _ jobId response impossible
    cases impossible

/-- A poll that loads the report, and answers with metadata. -/
theorem safe_loadReport {role : Role} {jobId : JobId} {state : Store × Trace}
    {next : Option ResearchReport → Coroutine PollingStatusResponse}
    (rest : ∀ report later, (next report).Safe (terms.protocol role) (fun result _ =>
      ∀ response, result = .ok response → response.instantData.isSome) later) :
    ((loadReport .empty jobId).bind next).Safe (terms.protocol role) (fun result _ =>
      ∀ response, result = .ok response → response.instantData.isSome) state := by
  rw [loadReport_bind]
  apply Terms.safe_harmless
  · apply harmless_of_carried
    trivial
  · intro error now response impossible
    cases impossible
  · intro selected now after outcome _ _ _
    exact rest _ _

theorem safe_pollJob (role : Role) (jobId : JobId) (state : Store × Trace) :
    (pollJob jobId).Safe (terms.protocol role) (fun result _ =>
      ∀ response, result = .ok response → response.instantData.isSome) state := by
  apply Terms.safe_harmless
  · apply harmless_of_carried
    trivial
  · intro error now response impossible
    cases impossible
  · intro found now after outcome carries _ called
    obtain ⟨rfl, rfl⟩ := getState_ok called
    cases stored : after.snapshots jobId with
    | none =>
        apply safe_loadReport
        intro report later
        cases report with
        | none =>
            apply Program.safe_raise.mpr
            intro now _ _ response impossible
            cases impossible
        | some report =>
            apply Program.safe_pure.mpr
            intro now _ _ response same
            exact Except.ok.inj same ▸ rfl
    | some snapshot =>
        have carried := carries jobId snapshot stored
        have shown : ∀ report later, (Program.pure (pollingResponse snapshot report)).Safe
            (terms.protocol role) (fun result _ =>
              ∀ response, result = .ok response → response.instantData.isSome) later := by
          intro report later
          apply Program.safe_pure.mpr
          intro now _ _ response same
          rw [← Except.ok.inj same]
          exact carried
        change (pollWithSnapshot jobId snapshot).Safe _ _ _
        unfold pollWithSnapshot
        by_cases completed : snapshot.status = .completed
        · rw [if_pos completed]
          apply safe_loadReport
          exact shown
        · rw [if_neg completed]
          exact shown none _

theorem safe_poll (context : RequestContext) (jobId : JobId) {store : Store}
    (carries : Carries store) :
    (getResearchJobStatus context jobId).Safe (terms.protocol (.poller jobId)) (fun result _ =>
      ∀ answer, result = .ok answer → terms.answers (.poller jobId) answer) (store, []) := by
  apply (Terms.safe_answering carries
    (safe_pollJob (.poller jobId) jobId _)).weaken
  intro result now _ answered answer same id response _ status
  rcases answered answer same with ⟨value, shown, carried⟩ | ⟨error, problem⟩
  · rw [status] at shown
    cases shown
    exact carried
  · rw [status] at problem
    cases problem

/-- A pipeline takes the metadata of the snapshot over, and then has its own. -/
theorem safe_executeResearchPipeline (env : Environment) (message : ResearchJobMessage)
    (received : ReceivedMessage) (state : Store × Trace) :
    (executeResearchPipeline env message).Safe (terms.protocol (.worker received))
      (fun _ _ => True) state := by
  unfold executeResearchPipeline
  cases parseGithubRepositoryUrl env.urlLibrary message.repoUrl with
  | error error => exact Program.safe_raise.mpr fun _ _ _ => trivial
  | ok target =>
      apply Terms.safe_harmless
      · apply harmless_of_carried
        trivial
      · intro error now
        trivial
      · intro existing now after outcome carries allowed called
        obtain ⟨rfl, rfl⟩ := getState_ok called
        have answered : outcome.faulty = false := by
          obtain ⟨supply, rfl, -⟩ := answer_of_exec_ok called
          rfl
        have present : (after.snapshots message.jobId).isNone = false := by
          simpa [terms, withdraws, answered] using allowed
        obtain ⟨snapshot, stored⟩ : ∃ snapshot, after.snapshots message.jobId = some snapshot := by
          simpa [← Option.isSome_iff_exists] using present
        rw [stored]
        apply Terms.safe_of_uses _ fun _ _ => trivial
        apply Program.Uses.perform_bind
        · apply harmless_of_carried
          trivial
        intro time
        apply Program.Uses.perform_bind
        · exact harmless_of_carried (carries message.jobId snapshot stored)
        intro _
        have uses := uses_pipelineSession env message.jobId target .empty
        apply (uses_withSession uses trivial).mono
        intro op session
        exact harmless_of_carried (carried_of_session session)

theorem safe_handleReceived (env : Environment) (received : ReceivedMessage) {store : Store}
    (carries : Carries store) :
    (handleReceived env received).Safe (terms.protocol (.worker received)) (fun _ _ => True)
      (store, []) := by
  have attempted : (executeResearchPipeline env received.body).attempt.Safe
      (terms.protocol (.worker received)) (fun _ _ => True) (store, []) :=
    Program.Safe.attempt (safe_executeResearchPipeline env received.body received (store, []))
  rw [handleReceived_eq]
  apply attempted.bind carries
  · intro ended now _ _
    apply Terms.safe_of_uses _ fun _ _ => trivial
    apply (uses_settle env.settings received ended).mono
    intro op settling
    exact harmless_of_settling settling
  · intro _ _ _ _
    trivial

theorem enforced (env : Environment) :
    terms.Enforced env (fun action state => withdrawsNothing action state.1) where
  submits context request store _ := safe_submit env context request (store, [])
  polls context jobId store carries := safe_poll context jobId carries
  works received store carries := safe_handleReceived env received carries
  drifts := by
    intro store after drifted carries
    refine ⟨?_, fun _ _ => trivial⟩
    cases drifted with
    | expireSnapshot jobId =>
        intro other snapshot found
        rcases update_eq_some found with ⟨-, dropped⟩ | ⟨-, found⟩
        · cases dropped
        · exact carries other snapshot found
    | expireCached | queue => exact carries
  calls := by
    intro index outcome service journal task op _ permitted found pending
    change withdraws task.role op outcome service.store = false
    simpa [withdrawsNothing, found, pending] using permitted
  others := by
    intro index outcome service journal task op reply after other beside _ _ _ _ _ _ _ _
    trivial

end InstantData

/-- In every run without a withdrawing call, metadata once shown stays shown. -/
theorem instant_data_kept {env : Environment} {dlqArn : String}
    {aiCache : String → Option CachedPayload} {actions further : List Action}
    {earlier later : Service}
    (ran : runWithin (Service.step env) withdrawsNothing actions
      (Service.initial env.settings dlqArn aiCache) = some earlier)
    (continued : runWithin (Service.step env) withdrawsNothing further earlier = some later)
    (jobId : JobId) : NeverWithdrawn jobId earlier later := by
  intro first second shown response _ _ polled _
  have whole : runWithin (Service.step env) withdrawsNothing (actions ++ further)
      (Service.initial env.settings dlqArn aiCache) = some later :=
    runWithin_append_eq_some_iff.mpr ⟨earlier, ran, continued⟩
  obtain ⟨journal, noted⟩ := exists_noting_run Journal.note whole fun _ => []
  have kept := (InstantData.enforced env).run (fun _ _ found => by cases found) noted
  obtain ⟨known, found⟩ := polled
  have ended := Program.safe_pure.mp (kept.keeps second _ found) (later.store, journal second)
    kept.invariant ((InstantData.terms.protocol _).rely_refl _)
  exact ended _ rfl jobId response rfl rfl

namespace Sample

/-- A submission, and a poll of its job. -/
def polled : List Action :=
  submission ++ .poll context "job-1" :: calls 1 [.ok]

/-- A worker's first calls, and then another poll. -/
def retaken : List Action :=
  .deliver 0 :: calls 2 [.ok, .done (.time noon), .ok] ++ .poll context "job-1" :: calls 3 [.ok]

end Sample

/-- A pipeline takes the metadata over from the snapshot of the submission. -/
theorem instant_data_kept_retaken :
    ∃ earlier later,
      runWithin (Service.step Sample.environment) withdrawsNothing Sample.polled Sample.cold =
        some earlier ∧
      runWithin (Service.step Sample.environment) withdrawsNothing Sample.retaken earlier =
        some later ∧
      NeverWithdrawn "job-1" earlier later :=
  ⟨_, _, Sample.ran_after (by decide), Sample.ran_after (by decide),
    instant_data_kept (Sample.ran_after (by decide)) (Sample.ran_after (by decide)) "job-1"⟩

/-- The snapshot expires before the worker starts: the poll that follows shows
the job in progress without the metadata that was there before. -/
theorem instant_data_withdrawn :
    ∃ earlier later,
      run (Service.step Sample.environment) Sample.polled Sample.cold = some earlier ∧
      run (Service.step Sample.environment) (.expireSnapshot "job-1" :: Sample.retaken) earlier =
        some later ∧
      ¬ NeverWithdrawn "job-1" earlier later := by
  refine ⟨_, _, Sample.ran_after (by decide), Sample.ran_after (by decide), ?_⟩
  intro never
  have kept := never 1 3 _ _ ⟨true, rfl⟩ rfl ⟨true, rfl⟩ (by
    rintro ⟨known, found⟩
    cases found)
  cases kept

end ResearchTool
