import ResearchTool.Attempts

/-!
# No job is lost

A message leaves the queue when its worker deletes it after a success, and
when the broker moves it to the dead-letter queue instead of handing it out
once more.  While one task at a time works on a job, the second is noticed by
the worker of the last attempt, as long as it neither crashes nor fails to
reach the database: calls may fail and processes may crash everywhere else,
and still no job is left behind unfinished.
-/

namespace ResearchTool

open Process

namespace Losses

/-- On the last attempt the database carries out what it is asked. -/
def lastHandled (limit : Nat) : Stage → Op → Outcome → Bool
  | .settlement received, op, outcome =>
      received.receiveCount < limit || op.party != .database || !outcome.faulty
  | _, _, _ => true

/-- Everybody may crash but the worker of the last attempt. -/
def mayCrash (limit : Nat) : Stage → Bool
  | .submission _ => true
  | .execution received => received.receiveCount < limit
  | .settlement received => received.receiveCount < limit

/-- The job is completed or failed. -/
def Terminal (jobId : JobId) (store : Store) : Prop :=
  ∃ row, store.jobs jobId = some row ∧ (row.status = .completed ∨ row.status = .failed)

/-- A message that cannot be delivered again is about a terminal job. -/
structure Kept (limit : Nat) (jobId : JobId) (message : QueueMessage) (store : Store) : Prop where
  redriven : message.place = .deadLetter → limit ≤ message.receiveCount
  deleted : message.place = .deleted → Terminal jobId store
  exhausted : limit ≤ message.receiveCount → Terminal jobId store

def Rests (limit : Nat) (jobId : JobId) (store : Store) : Prop :=
  store.queue.maxReceiveCount = limit → ∀ id message, store.queue.jobAt id = some jobId →
    store.queue.messages[id]? = some message → Kept limit jobId message store

/-- No message about the job was delivered yet. -/
def Undelivered (limit : Nat) (jobId : JobId) (store : Store) : Prop :=
  store.queue.maxReceiveCount = limit → ∀ id message, store.queue.jobAt id = some jobId →
    store.queue.messages[id]? = some message →
      message.receiveCount = 0 ∧ message.place ≠ .deleted ∧
        (message.place = .deadLetter → limit ≤ message.receiveCount)

/-- A deleted message is about a terminal job. -/
def Accounted (received : ReceivedMessage) (store : Store) : Prop :=
  ∀ message, store.queue.messages[received.receiptHandle.message]? = some message →
    message.place = .deleted → Terminal received.body.jobId store

def Bears (limit : Nat) : Stage → Store → Prop
  | .submission jobId, store => Undelivered limit jobId store
  | .execution received, store => Handled limit received store
  | .settlement received, store => Held limit received store ∧ Accounted received store

variable {limit : Nat} {jobId : JobId} {before after : Store}

theorem Terminal.keep (terminal : Terminal jobId before)
    (same : after.jobs jobId = before.jobs jobId) : Terminal jobId after := by
  obtain ⟨row, stored, status⟩ := terminal
  exact ⟨row, same.trans stored, status⟩

theorem Kept.leave {message moved : QueueMessage} (left : before.Leaves jobId after)
    (waits : message.Waits limit moved) (kept : Kept limit jobId message before) :
    Kept limit jobId moved after where
  redriven place := by
    rw [waits.receiveCount]
    rcases waits.redriven place with old | exhausted
    · exact kept.redriven old
    · exact exhausted
  deleted place := (kept.deleted (waits.deleted.mp place)).keep left.job
  exhausted all := (kept.exhausted (waits.receiveCount ▸ all)).keep left.job

theorem rests_of_leaves (left : before.Leaves jobId after) (rests : Rests limit jobId before) :
    Rests limit jobId after :=
  messages_of_leaves left rests fun _ _ waits kept => kept.leave left waits

theorem undelivered_of_leaves (left : before.Leaves jobId after)
    (undelivered : Undelivered limit jobId before) : Undelivered limit jobId after := by
  refine messages_of_leaves left undelivered ?_
  rintro message moved waits ⟨unreceived, undeleted, redriven⟩
  refine ⟨waits.receiveCount.trans unreceived, fun place => undeleted (waits.deleted.mp place), ?_⟩
  intro place
  rw [waits.receiveCount]
  rcases waits.redriven place with old | exhausted
  · exact redriven old
  · exact exhausted

theorem Accounted.leave {received : ReceivedMessage}
    (left : before.Leaves received.body.jobId after) (held : Held limit received before)
    (accounted : Accounted received before) : Accounted received after := by
  intro moved present place
  obtain ⟨message, found, -⟩ := held.message
  obtain ⟨other, same, waits⟩ := left.messages _ message ((held.about _).mpr rfl) found
  cases same.symm.trans present
  exact (accounted message found (waits.deleted.mp place)).keep left.job

theorem Accounted.of_undeleted {received : ReceivedMessage}
    (undeleted : Undeleted received before) :
    Accounted received before :=
  fun message found place => absurd place (undeleted message found)

theorem Accounted.of_terminal {received : ReceivedMessage}
    (terminal : Terminal received.body.jobId before) : Accounted received before :=
  fun _ _ _ => terminal

/-- What a worker leaves with its message. -/
theorem rests_of_held {received : ReceivedMessage} (held : Held limit received before)
    (accounted : Accounted received before)
    (exhausted : limit ≤ received.receiveCount → Terminal received.body.jobId before) :
    Rests limit received.body.jobId before := by
  intro _ id message about found
  obtain rfl := (held.about id).mp about
  obtain ⟨other, present, counted, redriven⟩ := held.message
  cases present.symm.trans found
  exact ⟨fun place => counted ▸ redriven place, accounted message found,
    fun all => exhausted (counted ▸ all)⟩

theorem rests_of_undelivered (some_attempt : 1 ≤ limit)
    (undelivered : Undelivered limit jobId before) : Rests limit jobId before := by
  intro provisioned id message about found
  obtain ⟨unreceived, undeleted, redriven⟩ := undelivered provisioned id message about found
  refine ⟨redriven, fun place => absurd place undeleted, fun all => ?_⟩
  rw [unreceived] at all
  omega

/-- A message that is refused before the last attempt is handed out again. -/
theorem rests_of_refused {store : Store} {id : Nat} {message : QueueMessage}
    (found : store.queue.messages[id]? = some message)
    (only : ∀ other, store.queue.jobAt other = some jobId → other = id)
    (more : message.receiveCount + 1 < limit) :
    Rests limit jobId (store.putQueue (store.queue.markReceived id)) := by
  intro _ other moved about present
  rw [Store.putQueue_queue, (Queue.moves_markReceived _ _).jobAt] at about
  obtain rfl := only other about
  rw [Store.putQueue_queue, Queue.markReceived, Queue.messages_update, if_pos rfl,
    found] at present
  cases present
  constructor
  · intro deadLetter
    cases deadLetter
  · intro deleted
    cases deleted
  · intro exhausted
    exact absurd more (Nat.not_lt.mpr exhausted)

/-- The terms on which no job is lost. -/
def tenancy (limit : Nat) : Tenancy where
  permits := lastHandled limit
  mayCrash := mayCrash limit
  mayRefuse count := decide (count < limit)
  bears := Bears limit
  rests jobId _ := Rests limit jobId
  bears_of_leaves {stage before after} left bears := by
    cases stage with
    | submission jobId => exact undelivered_of_leaves left bears
    | execution received => exact Handled.leave left bears
    | settlement received => exact ⟨bears.1.leave left, bears.2.leave left bears.1⟩
  rests_of_leaves := rests_of_leaves

/-! ## Submissions -/

theorem undelivered_of_unsent {store : Store} (unsent : store.Unsent jobId) :
    Undelivered limit jobId store :=
  fun _ id _ about => absurd about (unsent id)

/-- A message that is sent was not delivered yet. -/
theorem undelivered_enqueue {store : Store} (unsent : store.Unsent jobId) (body : MessageBody) :
    Undelivered limit jobId (store.putQueue (store.queue.enqueue body)) := by
  intro _ id message about found
  rw [Store.putQueue_queue, jobAt_enqueue] at about
  split at about
  · rename_i last
    rw [last] at found
    simp only [Store.putQueue_queue, Queue.enqueue, List.getElem?_concat_length,
      Option.some.injEq] at found
    subst found
    refine ⟨rfl, ?_, ?_⟩
    · intro deadLetter
      cases deadLetter
    · intro deleted
      cases deleted
  · exact absurd about (unsent id)

theorem Op.IsSubmission.sparesQueue {op : Op} (submission : op.IsSubmission jobId)
    (quiet : op.IsQuiet) : op.SparesQueue := by
  cases op with
  | send message => exact quiet trivial
  | delete | changeVisibility => cases submission
  | _ => trivial

/-- A submission after its message. -/
theorem safe_quiet {α : Type} {program : Coroutine α} {store : Store} (some_attempt : 1 ≤ limit)
    (own : program.Uses (Op.IsSubmission jobId)) (quiet : program.Uses Op.IsQuiet)
    (undelivered : Undelivered limit jobId store) :
    program.Safe ((tenancy limit).protocol (.submission jobId))
      (fun _ now => Rests limit jobId now)
      store := by
  have safe : program.Safe ((tenancy limit).protocol (.submission jobId))
      (fun _ now => Undelivered limit jobId now) store := by
    refine (own.and quiet).safe ?_ (fun _ _ => undelivered_of_leaves) undelivered
    rintro op before reply after ⟨own, quiet⟩ - undelivered ⟨outcome, -, called⟩
    have same := (written_of_exec called).sparesQueue (Op.IsSubmission.sparesQueue own quiet)
    have still : Undelivered limit jobId after := by
      rw [Undelivered, same]
      exact undelivered
    exact ⟨still, trivial, still⟩
  exact safe.weaken fun outcome now _ undelivered => rests_of_undelivered some_attempt undelivered

/-- A submission that may still send its message. -/
theorem safe_sending {α : Type} {program : Coroutine α} {store : Store} (some_attempt : 1 ≤ limit)
    (own : program.Uses (Op.IsSubmission jobId)) (once : program.AtMostOnce Op.IsSend)
    (unsent : store.Unsent jobId) :
    program.Safe ((tenancy limit).protocol (.submission jobId))
      (fun _ now => Rests limit jobId now)
      store := by
  have ended : ∀ now, store.Leaves jobId now → Rests limit jobId now := fun now left =>
    rests_of_undelivered some_attempt (undelivered_of_unsent (unsent.leave left))
  induction program generalizing store with
  | pure value => exact Program.safe_pure.mpr fun now _ left => ended now left
  | raise error => exact Program.safe_raise.mpr fun now _ left => ended now left
  | call op resume ih =>
      obtain ⟨owned, rest⟩ := Program.uses_call.mp own
      obtain ⟨last, more⟩ := Program.atMostOnce_call.mp once
      apply Program.safe_call.mpr
      rintro now reply after - left ⟨outcome, -, called⟩
      have written := written_of_exec called
      have unsent := unsent.leave left
      by_cases sends : op.IsSend
      · have undelivered : Undelivered limit jobId after := by
          cases written with
          | unchanged => exact undelivered_of_unsent unsent
          | sent message => exact undelivered_enqueue unsent _
          | _ => cases sends
        exact ⟨undelivered, trivial,
          safe_quiet some_attempt (rest reply) (last sends reply) undelivered⟩
      · have still := unsent.written written sends
        refine ⟨undelivered_of_unsent still, trivial, ih reply (rest reply) (more reply) still ?_⟩
        intro later further
        exact rests_of_undelivered some_attempt (undelivered_of_unsent (still.leave further))

/-! ## Deliveries -/

/-- An attempt that returns has completed the job. -/
theorem safe_attempt (env : Environment) {received : ReceivedMessage} {row : ResearchJobRecord}
    {store : Store} (handled : Handled limit received store)
    (stored : store.jobs received.body.jobId = some row) :
    (executeResearchPipeline env received.body).Safe
      ((tenancy limit).protocol (.execution received))
      (fun outcome now => Handled limit received now ∧ (now.jobs received.body.jobId).isSome ∧
        (outcome.isOk = true → Terminal received.body.jobId now)) store := by
  have attempt : (executeResearchPipeline env received.body).Safe
      ((tenancy limit).protocol (.execution received)) _ store :=
    safe_handled rfl (attempted_executeResearchPipeline env received.body stored)
      ((uses_executeResearchPipeline env received.body).mono fun _ => Op.IsPipeline.sparesQueue)
      (fun _ _ => id) (fun _ _ _ => rfl) (fun _ => id) handled
  apply attempt.weaken
  rintro outcome now - ⟨kept, current, present, -, completed⟩
  exact ⟨kept, Option.isSome_iff_exists.mpr ⟨current, present⟩, fun returned =>
    ⟨current, present, .inl (completed returned)⟩⟩

section

variable {received : ReceivedMessage} {store : Store}

/-- The last call of a worker. -/
theorem safe_last {op : Op} (settling : op.IsSettling received)
    (leaves : ∀ now after, store.Leaves received.body.jobId now → Written now op after →
      Accounted received after ∧
        (limit ≤ received.receiveCount → Terminal received.body.jobId after))
    (held : Held limit received store) :
    (await op).Safe ((tenancy limit).protocol (.settlement received))
      (fun _ now => Rests limit received.body.jobId now) store := by
  rw [← Program.bind_pure (await op)]
  apply Program.Safe.perform_bind
  rintro now reply after - left ⟨outcome, -, called⟩
  have written := written_of_exec called
  obtain ⟨accounted, exhausted⟩ := leaves now after left written
  have still : Held limit received after := (held.leave left).settle settling written
  have rests := rests_of_held still accounted exhausted
  refine ⟨⟨still, accounted⟩, trivial, ?_, ?_⟩
  · rintro value -
    exact Program.safe_pure.mpr fun later _ further => rests_of_leaves further rests
  · rintro error -
    exact Program.safe_raise.mpr fun later _ further => rests_of_leaves further rests

/-- The last call about a terminal job. -/
theorem safe_last_terminal {op : Op} (settling : op.IsSettling received)
    (rows : ∀ now after, Written now op after → after.jobs = now.jobs)
    (held : Held limit received store) (terminal : Terminal received.body.jobId store) :
    (await op).Safe ((tenancy limit).protocol (.settlement received))
      (fun _ now => Rests limit received.body.jobId now) store := by
  apply safe_last settling _ held
  intro now after left written
  have still : Terminal received.body.jobId after :=
    terminal.keep ((congrFun (rows now after written) _).trans left.job)
  exact ⟨.of_terminal still, fun _ => still⟩

/-- The custody of a worker that reaches the database. -/
def recorded (jobId : JobId) : Custody where
  permits op outcome := op.party != .database || !outcome.faulty
  rely := Store.Leaves jobId
  rely_refl := .refl jobId
  rely_trans := .trans

/-- The row is marked, whatever becomes of the snapshot. -/
theorem safe_markFailed (error : Exn) (present : (store.jobs jobId).isSome) :
    (markFailed jobId error).Safe (recorded jobId).protocol (fun _ now => Terminal jobId now)
      store := by
  have database : (recorded jobId).Sound .database := by
    intro op outcome same permitted
    simpa [recorded, same] using permitted
  have holds : (recorded jobId).Holds jobId := ⟨fun left => left.job, fun left => left.report⟩
  obtain ⟨row, stored⟩ := Option.isSome_iff_exists.mp present
  have marks : (updateJobStatus .empty jobId {
        status := some .failed
        progressMsg := some retriesExhausted
        error := some (some error.str)
      }).Safe (recorded jobId).protocol (fun _ now => Terminal jobId now) store := by
    rw [← Program.bind_pure (updateJobStatus _ _ _)]
    apply Custody.safe_updateJobStatus database holds stored (.inl rfl)
    intro updated before first reached written current same
    apply Custody.safe_pure
    intro now left
    exact ⟨_, (left.job.trans written.job).trans (Function.update_self _ _ _), .inr rfl⟩
  apply Custody.safe_withSession database marks
  case raised =>
    intro raised before now terminal left
    apply Custody.safe_raise
    intro later further
    exact (terminal.keep left.job).keep further.job
  intro session first second terminal left
  apply Custody.safe_now
  intro time third moved
  have terminal := (terminal.keep left.job).keep moved.job
  rw [← Program.bind_pure (await (.setState _))]
  apply Custody.safe_await
  · intro value fourth after outcome further _ called
    apply Custody.safe_pure
    intro now closed
    have same := ((written_of_exec called).sparesRows trivial).1
    exact (terminal.keep further.job).keep (closed.job.trans (congrFun same jobId))
  · intro raised fourth after outcome further _ called
    apply Custody.safe_raise
    intro now closed
    have same := ((written_of_exec called).sparesRows trivial).1
    exact (terminal.keep further.job).keep (closed.job.trans (congrFun same jobId))

/-- A message made visible again is not deleted. -/
theorem undeleted_of_revealed {now after : Store} (undeleted : Undeleted received now)
    (written : Written now (.changeVisibility received.receiptHandle 0) after) :
    Undeleted received after := by
  cases written with
  | unchanged => exact undeleted
  | revealed handle timeoutSeconds honoured => exact undeleted.changeVisibility _ _ _

/-- However its calls end, a worker loses no job. -/
theorem settles (settings : Settings) (limited : settings.maxQueueAttempts = limit)
    (past : List Verdict) {outcome : Except Exn Unit} (handled : Handled limit received store)
    (present : (store.jobs received.body.jobId).isSome)
    (returned : outcome.isOk = true → Terminal received.body.jobId store) :
    (tenancy limit).Settles settings past received outcome store := by
  refine ⟨⟨handled.held, .of_undeleted handled.undeleted⟩, ?_⟩
  have released : ∀ {now : Store}, Handled limit received now →
      Terminal received.body.jobId now →
      (await (.changeVisibility received.receiptHandle 0)).Safe
        ((tenancy limit).protocol (.settlement received))
        (fun _ now => Rests limit received.body.jobId now) now := by
    intro now handled terminal
    refine safe_last_terminal ?_ ?_ handled.held terminal
    · rfl
    · rintro before after (_ | _) <;> rfl
  cases outcome with
  | ok value =>
      have deletes : (await (.delete received.receiptHandle)).Safe
          ((tenancy limit).protocol (.settlement received))
          (fun _ now => Rests limit received.body.jobId now) store := by
        refine safe_last_terminal ?_ ?_ handled.held (returned rfl)
        · rfl
        · rintro before after (_ | _) <;> rfl
      exact deletes
  | error error =>
      by_cases last : settings.maxQueueAttempts ≤ received.receiveCount
      · rw [settle_exhausted last]
        have marks : (markFailed received.body.jobId error).Safe
            ((tenancy limit).protocol (.settlement received))
            (fun _ now => Handled limit received now ∧
              Terminal received.body.jobId now) store := by
          refine safe_handled rfl (safe_markFailed error present) (sparesQueue_markFailed _ _)
            (fun _ _ => id) ?_ (fun _ handled => ⟨handled.held, .of_undeleted handled.undeleted⟩)
            handled
          intro op outcome permitted
          have exhausted : ¬ received.receiveCount < limit := by omega
          simpa [tenancy, lastHandled, recorded, exhausted] using permitted
        apply marks.bind ⟨handled.held, .of_undeleted handled.undeleted⟩
        · rintro value now - ⟨handled, terminal⟩
          exact released handled terminal
        · rintro raised now - ⟨handled, terminal⟩
          exact rests_of_held handled.held (.of_terminal terminal) fun _ => terminal
      · rw [settle_retry last]
        have retries : (await (.changeVisibility received.receiptHandle 0)).Safe
            ((tenancy limit).protocol (.settlement received))
            (fun _ now => Rests limit received.body.jobId now) store := by
          refine safe_last ?_ ?_ handled.held
          · rfl
          · intro now after left written
            have kept := undeleted_of_revealed (handled.undeleted.leave left handled.held) written
            exact ⟨.of_undeleted kept, fun exhausted => absurd (limited ▸ exhausted) last⟩
        exact retries

end

/-! ## Runs -/

section

-- the programs are used through what was shown of them only
attribute [local irreducible] submitResearchJob executeResearchPipeline settle

/-- Every program keeps the terms. -/
theorem upheld (env : Environment) (some_attempt : 1 ≤ env.settings.maxQueueAttempts) :
    (tenancy env.settings.maxQueueAttempts).Upheld env where
  absent jobId store lacks :=
    rests_of_undelivered some_attempt (undelivered_of_unsent lacks.unsent)
  registered target rawContext jobId store founded :=
    rests_of_undelivered some_attempt (undelivered_of_unsent founded.unsent)
  founds context request := by
    apply Tenancy.founds_submit
    intro target rawContext jobId store founded fetched
    refine ⟨undelivered_of_unsent founded.unsent, ?_⟩
    have unsent : store.Unsent jobId := founded.unsent
    apply safe_sending some_attempt _ _ unsent
    · apply Program.Uses.perform_bind
      · rfl
      intro refreshed
      exact uses_announceJob _ _ _ _ _
    · apply Program.AtMostOnce.after (.perform id)
      intro refreshed
      exact sendsOnce_announceJob _ _ _ _ _
  works history id message body store rests found named only provisioned visible below
    present := by
    have handled := handled_markReceived found named only provisioned
    refine ⟨handled, ?_⟩
    obtain ⟨row, stored⟩ := Option.isSome_iff_exists.mp present
    apply (safe_attempt env handled stored).weaken
    rintro outcome now - ⟨handled, present, completed⟩
    exact settles env.settings rfl history handled present completed
  refuses history id message body store _ found _ only _ mayRefuse :=
    rests_of_refused found only (of_decide_eq_true mayRefuse)
  crashes stage history store mayCrash bears _ := by
    cases stage with
    | submission jobId => exact rests_of_undelivered some_attempt bears
    | execution received =>
        have more : received.receiveCount < env.settings.maxQueueAttempts :=
          of_decide_eq_true mayCrash
        have handled : Handled env.settings.maxQueueAttempts received store := bears
        exact rests_of_held handled.held (.of_undeleted handled.undeleted)
          fun exhausted => absurd more (Nat.not_lt.mpr exhausted)
    | settlement received =>
        have more : received.receiveCount < env.settings.maxQueueAttempts :=
          of_decide_eq_true mayCrash
        exact rests_of_held bears.1 bears.2 fun exhausted => absurd more (Nat.not_lt.mpr exhausted)

end

/-- While one task at a time works on a job, and the worker of the last attempt
neither crashes, be it on a message that does not validate, nor fails to reach
the database, a job whose message is gone or will not be delivered again is
completed or failed whenever nobody works on it, whatever else fails or
crashes. -/
theorem no_job_lost (env : Environment) (dlqArn : String)
    (aiCache : String → Option CachedPayload) (actions : List Action) (service : Service)
    (some_attempt : 1 ≤ env.settings.maxQueueAttempts)
    (ran : runWithin (Service.step env)
      ((tenancy env.settings.maxQueueAttempts).allows env) actions
      (Service.initial env.settings dlqArn aiCache) = some service) (jobId : JobId)
    (idle : ∀ task ∈ service.tasks, task.tenant ≠ some jobId) (id : Nat) (message : QueueMessage)
    (about : service.store.queue.jobAt id = some jobId)
    (found : service.store.queue.messages[id]? = some message)
    (gone : message.place = .deleted ∨ message.place = .deadLetter ∨
      env.settings.maxQueueAttempts ≤ message.receiveCount) :
    Terminal jobId service.store := by
  have terms := (upheld env some_attempt).run ran
  have kept : Kept env.settings.maxQueueAttempts jobId message service.store :=
    terms.leased.rests idle terms.provisioned id message about found
  rcases gone with deleted | deadLetter | exhausted
  · exact kept.deleted deleted
  · exact kept.exhausted (kept.redriven deadLetter)
  · exact kept.exhausted exhausted

/-- A worker crashes; the message becomes visible again, and another worker
completes the job. -/
def recovery : List Action :=
  Sample.submission ++ [.deliver 0, .resume 1 .ok, .crash 1, .timeout 0, .deliver 0] ++
    Sample.calls 2 (Sample.unanalyzed (.llmUnavailable "down") ++ [.done (.flag true)])

theorem no_job_lost_recovery :
    ∃ service, runWithin (Service.step Sample.environment)
        ((tenancy 3).allows Sample.environment) recovery Sample.cold =
        some service ∧ Terminal "job-1" service.store := by
  obtain ⟨service, ran, idle, about, deleted⟩ :
    ∃ service, runWithin (Service.step Sample.environment)
      ((tenancy 3).allows Sample.environment) recovery Sample.cold = some service ∧
      (∀ task ∈ service.tasks, task.tenant ≠ some "job-1") ∧
      service.store.queue.jobAt 0 = some "job-1" ∧
      service.store.queue.messages[0]?.map (·.place) = some .deleted :=
    ⟨_, Sample.ran_after (by decide +kernel), by decide +kernel⟩
  obtain ⟨message, found, place⟩ := Option.map_eq_some_iff.mp deleted
  exact ⟨service, ran, no_job_lost Sample.environment "arn:dlq" (fun _ => none) recovery service
    (by decide) ran "job-1" idle 0 message about found (.inl place)⟩

/-- No worker works on the job. -/
def Unattended (jobId : JobId) (service : Service) : Prop :=
  ∀ task ∈ service.tasks, task.delivery.isSome → task.tenant ≠ some jobId

/-- While deliveries do not overlap, and the worker of the last attempt neither
crashes nor fails to reach the database, a job whose message has left the queue
is completed or failed whenever no worker works on it. -/
theorem accepted_jobs_end (env : Environment) (dlqArn : String)
    (aiCache : String → Option CachedPayload) (actions : List Action) (service : Service)
    (some_attempt : 1 ≤ env.settings.maxQueueAttempts)
    (ran : runWithin (Service.step env)
      ((tenancy env.settings.maxQueueAttempts).allows env) actions
      (Service.initial env.settings dlqArn aiCache) = some service) (jobId : JobId)
    (unattended : Unattended jobId service) (id : Nat) (message : QueueMessage)
    (about : service.store.queue.jobAt id = some jobId)
    (found : service.store.queue.messages[id]? = some message)
    (left : message.place = .deleted ∨ message.place = .deadLetter) :
    ∃ row, service.store.jobs jobId = some row ∧
      (row.status = .completed ∨ row.status = .failed) := by
  have terms := (upheld env some_attempt).run ran
  -- a submission that still works on the job has an undelivered message
  have idle : ∀ task ∈ service.tasks, task.tenant ≠ some jobId := by
    intro task member holds
    obtain ⟨index, present⟩ := List.mem_iff_getElem?.mp member
    have named := (Task.tenant_eq_some_iff.mp holds).2
    have keeps := terms.leased.keeps present holds
    cases task with
    | submit job program =>
        cases named
        have undelivered : Undelivered env.settings.maxQueueAttempts jobId service.store :=
          keeps.2.1
        obtain ⟨unreceived, undeleted, redriven⟩ :=
          undelivered terms.provisioned id message about found
        have exhausted := redriven (left.resolve_left undeleted)
        omega
    | execute received program => exact unattended _ member rfl holds
    | settle received outcome program => exact unattended _ member rfl holds
    | poll | crashed => cases named
  have kept : Kept env.settings.maxQueueAttempts jobId message service.store :=
    terms.leased.rests idle terms.provisioned id message about found
  rcases left with deleted | deadLetter
  · exact kept.deleted deleted
  · exact kept.exhausted (kept.redriven deadLetter)

/-- The message of the run above is deleted. -/
theorem accepted_jobs_end_recovery :
    ∃ service, runWithin (Service.step Sample.environment)
        ((tenancy 3).allows Sample.environment) recovery Sample.cold = some service ∧
      ∃ row, service.store.jobs "job-1" = some row ∧
        (row.status = .completed ∨ row.status = .failed) := by
  obtain ⟨service, ran, idle, about, deleted⟩ :
    ∃ service, runWithin (Service.step Sample.environment)
      ((tenancy 3).allows Sample.environment) recovery Sample.cold = some service ∧
      (∀ task ∈ service.tasks, task.tenant ≠ some "job-1") ∧
      service.store.queue.jobAt 0 = some "job-1" ∧
      service.store.queue.messages[0]?.map (·.place) = some .deleted :=
    ⟨_, Sample.ran_after (by decide +kernel), by decide +kernel⟩
  obtain ⟨message, found, place⟩ := Option.map_eq_some_iff.mp deleted
  exact ⟨service, ran, accepted_jobs_end Sample.environment "arn:dlq" (fun _ => none) recovery
    service (by decide) ran "job-1" (fun task member _ => idle task member) 0 message about found
    (.inl place)⟩

/-- Every worker dies once it has marked the job as processing, the one of the
last attempt included. -/
def abandoned : List Action :=
  let attempt (task : Nat) : List Action :=
    .deliver 0 :: Sample.calls task (Sample.fetched.take 6) ++ [.crash task, .timeout 0]
  Sample.submission ++ attempt 1 ++ attempt 2 ++ attempt 3 ++ [.redrive 0]

/-- The second delivery completes the job and deletes the message while the worker
of the first one is at work, which then fails to reach GitHub. -/
def overtaken : List Action :=
  Sample.submission ++ [.deliver 0, .timeout 0, .deliver 0] ++
    Sample.calls 2 (Sample.unanalyzed (.llmUnavailable "down") ++ [.done (.flag true)]) ++
    Sample.calls 1 (Sample.fetched.take 6 ++ [.failed Sample.fault, .ok, .done (.flag true)])

/-- A job that is still processing though its message is gone and no worker works on
it: when the worker of the last attempt dies, and when two deliveries overlap. -/
theorem accepted_jobs_stay_processing :
    (∃ service, run (Service.step Sample.environment) abandoned Sample.cold = some service ∧
      Unattended "job-1" service ∧ service.store.queue.jobAt 0 = some "job-1" ∧
      service.store.queue.messages[0]?.map (·.place) = some .deadLetter ∧
      (service.store.jobs "job-1").map (·.status) = some .processing) ∧
    ∃ service, run (Service.step Sample.environment) overtaken Sample.cold = some service ∧
      Unattended "job-1" service ∧ service.store.queue.jobAt 0 = some "job-1" ∧
      service.store.queue.messages[0]?.map (·.place) = some .deleted ∧
      (service.store.jobs "job-1").map (·.status) = some .processing := by
  have unattended : ∀ {service : Service}, (∀ task ∈ service.tasks, task.tenant ≠ some "job-1") →
      Unattended "job-1" service := fun idle task member _ => idle task member
  constructor
  · exact ⟨_, Sample.ran_after (by decide +kernel), unattended (by decide +kernel),
      by decide +kernel⟩
  · exact ⟨_, Sample.ran_after (by decide +kernel), unattended (by decide +kernel),
      by decide +kernel⟩

end Losses

end ResearchTool
