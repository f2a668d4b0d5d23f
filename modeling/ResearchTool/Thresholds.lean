import ResearchTool.Finality
import ResearchTool.Retries

/-!
# Matching thresholds

The broker counts receives and the worker compares the count with the number of
allowed attempts.  While the deliveries of a message do not overlap and the
worker gets to handle every outcome, a message that is spent stays so: a job is
attempted until its first success or until its last attempt, and never again.
-/

namespace ResearchTool

open Process

/-- Nobody works on the job that message `id` is about, if it is about one. -/
def Service.untended (service : Service) (id : Nat) : Bool :=
  (service.store.queue.jobAt id).all fun jobId =>
    service.tasks.all fun task => task.tenant != some jobId

/-- The message of a job is received, or moved to the dead-letter queue instead,
when nobody works on the job; it validates, no send is lost, workers do not
crash, and the calls with which they handle an outcome succeed. -/
def handledInTurn (env : Environment) (action : Action) (service : Service) : Bool :=
  match action with
  | .deliver id =>
      service.untended id && (service.store.queue.jobAt id).all fun _ =>
        service.store.queue.messages[id]?.all fun message => !env.refuses message.body
  | .redrive id => service.untended id
  | .resume index outcome =>
      service.tasks[index]?.all fun task =>
        task.stage.all fun stage => task.pending.all fun op =>
          Retries.outcomesHandled stage op outcome
  | .crash index => service.tasks[index]?.all fun task => task.stage.all Retries.mayCrash
  | _ => true

namespace Thresholds

theorem allows_of_handledInTurn {env : Environment} (limit : Nat) (action : Action)
    (service : Service) (permitted : handledInTurn env action service = true) :
    (Retries.tenancy limit).allows env action service = true := by
  cases action with
  | deliver id =>
      cases about : service.store.queue.jobAt id with
      | none => simp [Tenancy.allows, about]
      | some jobId =>
          simpa [handledInTurn, Service.untended, Tenancy.allows, Retries.tenancy, about]
            using permitted
  | resume index outcome => exact permitted
  | crash index => exact permitted
  | _ => rfl

end Thresholds

/-! ## Verdicts of jobs that nobody works on -/

/-- Only the task that works on a job comes to something about it. -/
theorem Step.verdicts_of_idle {env : Environment} {action : Action} {service after : Service}
    (moved : Step env service action after) {jobId : JobId}
    (idle : ∀ task ∈ service.tasks, task.tenant ≠ some jobId) :
    Retries.verdicts jobId after = Retries.verdicts jobId service := by
  -- the tenancy is that of any terms
  let leases := (Retries.tenancy 0).leases env.settings
  have spawned : ∀ task : Task, task.verdict = none →
      leases.history jobId (service.tasks ++ [task]) = leases.history jobId service.tasks := by
    intro task unheard
    rw [Leases.history_append, Leases.verdictOn_of_none unheard, Option.toList_none,
      List.append_nil]
  cases moved with
  | submit context request => exact spawned (.submit none _) rfl
  | poll context id => exact spawned (.poll id _ _) rfl
  | deliver id message body found visible below named accepted =>
      exact spawned _ (Tenancy.working_live env.settings _ _).2
  | resume index outcome task next store found resumes =>
      have unheard : leases.verdictOn jobId task = none := by
        apply Leases.verdictOn_of_none
        cases resumes <;> rfl
      refine Leases.history_set_of_none found unheard ?_
      cases ended : leases.verdictOn jobId next with
      | none => rfl
      | some verdict =>
          have own := Task.job_of_verdict (Leases.verdictOn_eq_some_iff.mp ended)
          have before : task.job = some jobId := by
            rcases resumes.subject with ⟨-, kept⟩ | ⟨record, program, waits, rfl, -, absent⟩
            · exact kept.symm.trans own
            · cases ended
          exact absurd (Task.tenant_eq_some_iff.mpr ⟨resumes.live, before⟩)
            (idle task (List.mem_of_getElem? found))
  | crash index task found live =>
      have silent : leases.verdictOn jobId .crashed = none := Leases.verdictOn_of_none rfl jobId
      refine Leases.history_set_of_none found ?_ silent
      apply Leases.verdictOn_of_none
      cases task with
      | settle received outcome program => exact if_pos live
      | submit | poll | execute | crashed => rfl
  | reject | expireSnapshot | expireCached | timeout | redrive => rfl

/-! ## Messages in the dead-letter queue -/

/-- No call of a task moves a message to the dead-letter queue. -/
theorem Written.deadLetter {op : Op} {store after : Store} (written : Written store op after)
    {id : Nat} {message : QueueMessage} (found : after.queue.messages[id]? = some message)
    (dead : message.place = .deadLetter) :
    ∃ before, store.queue.messages[id]? = some before ∧ before.place = .deadLetter := by
  have updated : ∀ {handle : ReceiptHandle} {change : QueueMessage → QueueMessage},
      (∀ before, (change before).place = .deadLetter → before.place = .deadLetter) →
      (store.queue.update handle.message change).messages[id]? = some message →
        ∃ before, store.queue.messages[id]? = some before ∧ before.place = .deadLetter := by
    intro handle change spares present
    rw [Queue.messages_update] at present
    split at present
    · obtain ⟨before, there, rfl⟩ := Option.map_eq_some_iff.mp present
      exact ⟨before, there, spares before dead⟩
    · exact ⟨message, present, dead⟩
  cases written with
  | sent body =>
      rcases Nat.lt_trichotomy id store.queue.messages.length with below | same | above
      · exact ⟨message, (List.getElem?_append_left below).symm.trans found, dead⟩
      · subst same
        rw [Store.putQueue_queue, Queue.enqueue, List.getElem?_concat_length] at found
        cases found
        cases dead
      · rw [Store.putQueue_queue, Queue.enqueue, List.getElem?_eq_none (by simp; omega)] at found
        cases found
  | deleted handle honoured =>
      rw [Store.putQueue_queue, Queue.delete] at found
      split at found
      · refine updated (fun before moved => ?_) found
        split at moved
        · assumption
        · cases moved
      · exact ⟨message, found, dead⟩
  | revealed handle timeoutSeconds honoured =>
      rw [Store.putQueue_queue, Queue.changeVisibility] at found
      split at found
      · refine updated (fun before moved => ?_) found
        split at moved
        · cases moved
        · exact moved
      · exact ⟨message, found, dead⟩
  | _ => exact ⟨message, found, dead⟩

/-- Only the broker moves a message to the dead-letter queue. -/
theorem Step.deadLetter {env : Environment} {action : Action} {service after : Service}
    (moved : Step env service action after) {id : Nat} {message : QueueMessage}
    (found : after.store.queue.messages[id]? = some message)
    (dead : message.place = .deadLetter) :
    ∃ before, service.store.queue.messages[id]? = some before ∧
      (before.place = .deadLetter ∨ action = .redrive id ∧ before.place = .visible ∧
        service.store.queue.maxReceiveCount ≤ before.receiveCount) := by
  have kept : ∀ {other : Nat} {change : QueueMessage → QueueMessage},
      (∀ before, (change before).place = .deadLetter → before.place = .deadLetter ∨
        action = .redrive other ∧ before.place = .visible ∧
          service.store.queue.maxReceiveCount ≤ before.receiveCount) →
      (service.store.queue.update other change).messages[id]? = some message →
        ∃ before, service.store.queue.messages[id]? = some before ∧
          (before.place = .deadLetter ∨ action = .redrive id ∧ before.place = .visible ∧
            service.store.queue.maxReceiveCount ≤ before.receiveCount) := by
    intro other change spares present
    rw [Queue.messages_update] at present
    split at present
    · rename_i same
      subst same
      obtain ⟨before, there, rfl⟩ := Option.map_eq_some_iff.mp present
      exact ⟨before, there, spares before dead⟩
    · exact ⟨message, present, .inl dead⟩
  cases moved with
  | deliver other | reject other =>
      refine kept (fun before reached => ?_) found
      cases reached
  | resume index outcome task next store present resumes =>
      obtain ⟨op, reply, pending, called⟩ := resumes.exec
      obtain ⟨before, there, still⟩ := Written.deadLetter (written_of_exec called) found dead
      exact ⟨before, there, .inl still⟩
  | timeout other =>
      refine kept (fun before reached => ?_) found
      split at reached
      · cases reached
      · exact .inl reached
  | redrive other =>
      refine kept (fun before reached => ?_) found
      split at reached
      · rename_i exhausted
        exact .inr ⟨rfl, exhausted⟩
      · exact .inl reached
  | _ => exact ⟨message, found, .inl dead⟩

namespace Thresholds

/-- A job whose message is in the dead-letter queue is settled, and every attempt
at it has raised. -/
def GivenUp (env : Environment) (service : Service) : Prop :=
  ∀ id message jobId, service.store.queue.jobAt id = some jobId →
    service.store.queue.messages[id]? = some message → message.place = .deadLetter →
      service.Settled env jobId ∧ Retries.AllRaised (Retries.verdicts jobId service)

/-- When a message is moved to the dead-letter queue every allowed attempt has
raised. -/
theorem givenUp_step {env : Environment} {action : Action} {service after : Service}
    (kept : (Retries.tenancy env.settings.maxQueueAttempts).Kept env.settings service)
    (permitted : handledInTurn env action service = true)
    (moved : Step env service action after) (givenUp : GivenUp env service) :
    GivenUp env after := by
  intro id message jobId about found dead
  obtain ⟨before, there, reached⟩ := moved.deadLetter found dead
  have concerning : service.store.queue.jobAt id = some jobId := by
    rw [Queue.jobAt_of_found found, moved.grows.body there found] at about
    rwa [Queue.jobAt_of_found there]
  rcases reached with already | ⟨rfl, visible, exhausted⟩
  · obtain ⟨settled, raised⟩ := givenUp id before jobId concerning there already
    refine ⟨(moved.settled settled).1, ?_⟩
    rw [moved.verdicts_of_idle settled.idle]
    exact raised
  · have idle : ∀ task ∈ service.tasks, task.tenant ≠ some jobId := by
      simpa [handledInTurn, Service.untended, concerning] using permitted
    rw [kept.provisioned] at exhausted
    have tried : Retries.Tried env.settings.maxQueueAttempts jobId
        (Retries.verdicts jobId service) before service.store :=
      kept.leased.rests idle kept.provisioned id before concerning there
    have raised : Retries.AllRaised (Retries.verdicts jobId service) := by
      cases tried.fate with
      | waiting raised more undeleted queued unmarked => exact raised
      | succeeded earlier received last raised gone completed =>
          rw [visible] at gone
          rcases gone with impossible | impossible <;> cases impossible
      | exhausted earlier received error last raised all marked =>
          rw [last]
          exact raised.append
    have settled : service.Settled env jobId := by
      refine ⟨kept.scope, kept.scope.sent id jobId concerning, idle, ?_⟩
      intro other message named present
      obtain rfl := kept.single.only other id jobId named concerning
      cases there.symm.trans present
      exact .inr (.inr (.inl (kept.provisioned ▸ exhausted)))
    refine ⟨(moved.settled settled).1, ?_⟩
    rw [moved.verdicts_of_idle idle]
    exact raised

theorem givenUp_of_run {env : Environment} {dlqArn : String}
    {aiCache : String → Option CachedPayload} {actions : List Action} {service : Service}
    (some_attempt : 1 ≤ env.settings.maxQueueAttempts)
    (ran : runWithin (Service.step env) (handledInTurn env) actions
      (Service.initial env.settings dlqArn aiCache) = some service) :
    (Retries.tenancy env.settings.maxQueueAttempts).Kept env.settings service ∧
      GivenUp env service := by
  have upheld := Retries.upheld env some_attempt
  refine runWithin_induction
    (fun now : Service => (Retries.tenancy env.settings.maxQueueAttempts).Kept env.settings now ∧
      GivenUp env now) ?_ ⟨upheld.initial dlqArn aiCache, ?_⟩ ran
  · rintro action now next permitted moved ⟨kept, givenUp⟩
    have step := Service.step_cases moved
    exact ⟨upheld.step kept (allows_of_handledInTurn _ action now permitted) step,
      givenUp_step kept permitted step givenUp⟩
  · intro id message jobId about
    simp [Service.initial, Queue.jobAt, Queue.bodies] at about

/-- The job is done with, whatever may still happen: nobody works on it, and no
attempt is added to those that were made. -/
def DoneWith (env : Environment) (jobId : JobId) (service : Service) : Prop :=
  ∀ later final, run (Service.step env) later service = some final →
    (∀ task ∈ final.tasks, task.tenant ≠ some jobId) ∧
      Retries.verdicts jobId final = Retries.verdicts jobId service

theorem doneWith_of_settled {env : Environment} {jobId : JobId} {service : Service}
    (settled : service.Settled env jobId) : DoneWith env jobId service := by
  intro later final went
  have kept : final.Settled env jobId ∧
      Retries.verdicts jobId final = Retries.verdicts jobId service := by
    refine runWithin_induction (fun now : Service => now.Settled env jobId ∧
      Retries.verdicts jobId now = Retries.verdicts jobId service) ?_ ⟨settled, rfl⟩ went
    rintro action now next - moved ⟨settled, same⟩
    have step := Service.step_cases moved
    exact ⟨(step.settled settled).1, (step.verdicts_of_idle settled.idle).trans same⟩
  exact ⟨kept.1.idle, kept.2⟩

/-- What the attempts at a job that nobody works on have come to. -/
structure Matches (env : Environment) (jobId : JobId) (executions : Nat) (message : QueueMessage)
    (service : Service) : Prop where
  /-- every execution has come to a verdict -/
  counted : executions = (Retries.verdicts jobId service).length
  succeeded : ∀ received, (received, .ok ()) ∈ Retries.verdicts jobId service →
    message.place = .deleted ∧ DoneWith env jobId service
  failed_iff : (∃ row, service.store.jobs jobId = some row ∧ row.status = .failed) ↔
    (Retries.verdicts jobId service).length = env.settings.maxQueueAttempts ∧
      Retries.AllRaised (Retries.verdicts jobId service)
  marked : ∀ earlier received error,
    Retries.verdicts jobId service = earlier ++ [(received, .error error)] →
      (Retries.verdicts jobId service).length = env.settings.maxQueueAttempts →
        Agreement.Marked jobId error service.store ∧ DoneWith env jobId service

/-- While deliveries do not overlap, workers do not crash, and their handling of an
outcome succeeds, a job is attempted at most as often as the settings allow.
After the first success the message is deleted and no attempt follows; the row
is marked as failed if and only if all allowed attempts raised, and then row and
snapshot show the error of the last one, and no attempt follows. -/
theorem retries_match_thresholds (env : Environment) (dlqArn : String)
    (aiCache : String → Option CachedPayload) (actions : List Action) (service : Service)
    (some_attempt : 1 ≤ env.settings.maxQueueAttempts)
    (ran : runWithin (Service.step env) (handledInTurn env) actions
      (Service.initial env.settings dlqArn aiCache) = some service) (jobId : JobId) :
    executions service.store.queue jobId actions ≤ env.settings.maxQueueAttempts ∧
      ((∀ task ∈ service.tasks, task.tenant ≠ some jobId) → ∀ id message,
        service.store.queue.jobAt id = some jobId →
          service.store.queue.messages[id]? = some message →
            Matches env jobId (executions service.store.queue jobId actions) message service) := by
  have counted := Service.counted_of_run (runWithin_mono (fun _ _ _ => rfl) ran)
  refine ⟨executions_le counted jobId, ?_⟩
  intro idle id message about found
  obtain ⟨kept, givenUp⟩ := givenUp_of_run some_attempt ran
  have tried : Retries.Tried env.settings.maxQueueAttempts jobId
      (Retries.verdicts jobId service) message service.store :=
    kept.leased.rests idle kept.provisioned id message about found
  -- a message that is spent is the only one of its job
  have settled : message.place = .deleted ∨ env.settings.maxQueueAttempts ≤ message.receiveCount →
      service.Settled env jobId := by
    intro spent
    refine ⟨kept.scope, kept.scope.sent id jobId about, idle, ?_⟩
    intro other waiting named present
    obtain rfl := kept.single.only other id jobId named about
    cases found.symm.trans present
    rcases spent with deleted | exhausted
    · exact .inl deleted
    · exact .inr (.inr (.inl (kept.provisioned ▸ exhausted)))
  constructor
  · rw [counted.executions_eq about, Queue.received_eq found, tried.counted]
  · intro received returned
    have undead : message.place ≠ .deadLetter := fun dead =>
      (givenUp id message jobId about found dead).2.not_ok returned
    cases tried.fate with
    | waiting raised => exact absurd returned raised.not_ok
    | exhausted earlier last error same raised =>
        rw [same] at returned
        exact absurd returned raised.append.not_ok
    | succeeded earlier last same raised gone completed =>
        have deleted := gone.resolve_right undead
        exact ⟨deleted, doneWith_of_settled (settled (.inl deleted))⟩
  · exact tried.failed_iff
  · intro earlier received error last all
    refine ⟨tried.marked earlier received error last all, doneWith_of_settled (settled (.inr ?_))⟩
    rw [tried.counted, all]

/-- Two attempts fail to read the snapshot, and the third one completes the job. -/
def thirdSucceeds : List Action :=
  let attempt (task : Nat) : List Action :=
    .deliver 0 :: Sample.calls task [.failed Sample.fault, .done (.flag true)]
  Sample.submission ++ attempt 1 ++ attempt 2 ++ .deliver 0 ::
    Sample.calls 3 (Sample.unanalyzed (.llmUnavailable "down") ++ [.done (.flag true)])

theorem retries_match_thresholds_third :
    ∃ service, runWithin (Service.step Sample.environment) (handledInTurn Sample.environment)
        thirdSucceeds Sample.cold = some service ∧
      executions service.store.queue "job-1" thirdSucceeds ≤ 3 ∧
      ∃ message, service.store.queue.messages[0]? = some message ∧ message.place = .deleted ∧
        DoneWith Sample.environment "job-1" service := by
  obtain ⟨service, ran, idle, about, succeeded, present⟩ : ∃ service,
      runWithin (Service.step Sample.environment) (handledInTurn Sample.environment) thirdSucceeds
        Sample.cold = some service ∧ (∀ task ∈ service.tasks, task.tenant ≠ some "job-1") ∧
      service.store.queue.jobAt 0 = some "job-1" ∧
      ((Retries.verdicts "job-1" service).any fun verdict => verdict.2.isOk) = true ∧
      service.store.queue.messages[0]?.isSome = true :=
    ⟨_, Sample.ran_after (by decide +kernel), by decide +kernel⟩
  obtain ⟨message, found⟩ := Option.isSome_iff_exists.mp present
  obtain ⟨⟨received, outcome⟩, member, returned⟩ := List.any_eq_true.mp succeeded
  obtain ⟨bounded, attempts⟩ := retries_match_thresholds Sample.environment "arn:dlq"
    (fun _ => none) thirdSucceeds service (by decide) ran "job-1"
  refine ⟨service, ran, bounded, message, found, ?_⟩
  cases outcome with
  | ok value => exact (attempts idle 0 message about found).succeeded received member
  | error error => cases returned

end Thresholds

end ResearchTool
