import ResearchTool.Scope

/-!
# The deliveries of a message

Whatever the order of the steps, whichever calls fail and whichever processes
crash: a job gets at most one message, the broker hands that message out at
most as often as the queue was provisioned for, and no two workers hold the
same attempt at a job.
-/

namespace ResearchTool

open Process

/-! ## One message a job -/

/-- The operation sends a message. -/
def Op.IsSend : Op → Prop
  | .send _ => True
  | _ => False

/-- The operations of a task that does not send anything. -/
def Op.IsQuiet (op : Op) : Prop :=
  ¬ op.IsSend

theorem quiet_completeFromCache (session : Session) (jobId : JobId)
    (rawContext : RepositoryRawContext) (now : DateTime) (cachedAi : StructuredAIResponse) :
    (completeFromCache session jobId rawContext
      (pendingSnapshot jobId now rawContext.instantData) cachedAi).Uses Op.IsQuiet := by
  apply Program.Uses.perform_bind id
  intro createdAt
  apply Program.Uses.bind
  · exact uses_saveFinalReport _ _ _ id id (fun _ => id) (fun _ => id) id
  intro saved
  apply Program.Uses.bind
  · exact uses_updateJobStatus _ _ _ id (fun _ => id) id
  intro updated
  apply Program.Uses.perform_bind id
  intro time
  apply Program.Uses.perform_bind id
  intro _
  exact Program.uses_pure _

/-- The compensation of a message that could not be sent sends no other. -/
theorem quiet_enqueueFailed (session : Session) (jobId : JobId) (now : DateTime)
    (instantData : InstantMetadata) (error : Exn) :
    (enqueueFailed session jobId (pendingSnapshot jobId now instantData) error).Uses
      Op.IsQuiet := by
  apply Program.Uses.bind
  · exact uses_updateJobStatus _ _ _ id (fun _ => id) id
  intro updated
  apply Program.Uses.perform_bind id
  intro time
  apply Program.Uses.perform_bind id
  intro _
  exact Program.uses_raise _

theorem sendsOnce_announceJob (session : Session) (target : ParsedRepoTarget)
    (request : ResearchRequest) (rawContext : RepositoryRawContext) (jobId : JobId) :
    (announceJob session target request rawContext jobId).AtMostOnce Op.IsSend := by
  apply Program.AtMostOnce.after (.perform id)
  intro now
  apply Program.AtMostOnce.after (.perform id)
  intro _
  apply Program.AtMostOnce.after (.perform id)
  intro cached
  cases cached with
  | some cachedAi => exact (quiet_completeFromCache _ _ _ _ _).atMostOnce
  | none =>
      apply Program.AtMostOnce.after (.perform id)
      intro enqueuedAt
      apply Program.AtMostOnce.before (Program.atMostOnce_perform _).attempt
      intro reply
      cases reply with
      | ok value => exact Program.uses_pure _
      | error error => exact quiet_enqueueFailed _ _ _ _ _

/-- After its message a submission sends nothing. -/
theorem sendsOnce_submitResearchJob (env : Environment) (context : RequestContext)
    (request : ResearchRequest) :
    (submitResearchJob env context request).AtMostOnce Op.IsSend := by
  unfold submitResearchJob answering
  apply Program.AtMostOnce.before
  · apply Program.AtMostOnce.attempt
    apply Program.AtMostOnce.after (Program.uses_ofExcept _)
    intro target
    apply Program.AtMostOnce.after (.perform id)
    intro (rawContext : RepositoryRawContext)
    apply Program.AtMostOnce.after (.perform id)
    intro (jobId : JobId)
    change Program.AtMostOnce Op.IsSend
      ((createJobRecord .empty (pendingRecord target rawContext jobId)).bind fun session =>
        announceJob session target request rawContext jobId)
    rw [createJobRecord_bind]
    apply Program.AtMostOnce.after (.perform id)
    intro _
    apply Program.AtMostOnce.after (.perform id)
    intro refreshed
    exact sendsOnce_announceJob _ _ _ _ _
  · intro outcome
    cases outcome <;> exact Program.uses_pure _

/-- Nothing is sent about the job yet. -/
def Store.Unsent (store : Store) (jobId : JobId) : Prop :=
  ∀ id, store.queue.jobAt id ≠ some jobId

/-- A submission sends at most one message, and none once its job has one. -/
def Task.SendsOnce (store : Store) : Task → Prop
  | submit job program =>
      program.AtMostOnce Op.IsSend ∧ (program.Uses Op.IsQuiet ∨
        ∀ jobId, job = some jobId → store.Unsent jobId)
  | _ => True

/-- No job has two messages, and no submission is about to send a second one. -/
structure Service.Single (service : Service) : Prop where
  only : ∀ first second jobId, service.store.queue.jobAt first = some jobId →
    service.store.queue.jobAt second = some jobId → first = second
  tasks : ∀ (index : Nat) (task : Task), service.tasks[index]? = some task →
    task.SendsOnce service.store

theorem Task.SendsOnce.keep {task : Task} {before after : Store} (once : task.SendsOnce before)
    (sent : ∀ id jobId, task.job = some jobId → after.queue.jobAt id = some jobId →
      before.queue.jobAt id = some jobId) : task.SendsOnce after := by
  cases task with
  | submit job program =>
      obtain ⟨single, quiet | unsent⟩ := once
      · exact ⟨single, .inl quiet⟩
      · refine ⟨single, .inr ?_⟩
        rintro jobId rfl id about
        exact unsent jobId rfl id (sent id jobId rfl about)
  | poll | execute | settle | crashed => trivial

/-- Only a submission sends, and only about its own job. -/
theorem Task.May.send_eq {task : Task} {store : Store} {message : ResearchJobMessage}
    (may : task.May store (.send message)) :
    ∃ program, task = .submit (some message.jobId) program := by
  cases may with
  | start program starts => cases starts
  | submit id program present submission =>
      have named : message.jobId = id := submission
      subst named
      exact ⟨program, rfl⟩
  | poll id known program poll => cases poll
  | work task received delivery about works =>
      rcases works with pipeline | settling <;> contradiction

/-- A call leaves its task with at most one message to send. -/
theorem Task.Resumes.sendsOnce {settings : Settings} {outcome : Outcome} {store after : Store}
    {task next : Task} (resumes : task.Resumes settings outcome store after next)
    (scope : ∀ id jobId, store.queue.jobAt id = some jobId → (store.jobs jobId).isSome)
    (once : task.SendsOnce store) : next.SendsOnce after := by
  cases resumes with
  | submit job op resume reply called =>
      obtain ⟨single, quiet⟩ := once
      obtain ⟨last, rest⟩ := Program.atMostOnce_call.mp single
      refine ⟨rest reply, ?_⟩
      rcases quiet with quiet | unsent
      · exact .inl ((Program.uses_call.mp quiet).2 reply)
      · by_cases sends : op.IsSend
        · exact .inl (last sends reply)
        · right
          intro jobId named id about
          have before : store.queue.jobAt id = some jobId := by
            rcases (written_of_exec called).jobAt about with before | ⟨message, rfl, -⟩
            · exact before
            · exact absurd trivial sends
          cases job with
          | some other => exact unsent jobId named id before
          | none =>
              -- the row is new, so that nothing was sent about it
              have registered : Task.registered op reply = some jobId := named
              unfold Task.registered at registered
              split at registered
              · rename_i record value
                cases registered
                have present := scope id _ before
                rw [(insertJob_ok called).1] at present
                cases present
              · cases registered
  | poll => trivial
  | execute received op resume reply called =>
      cases continued : resume reply <;> trivial
  | settle => trivial

/-- Until its message is sent, a job is worked on by its submission only. -/
theorem Service.Scoped.alone_sender {service : Service} (scope : service.Scoped)
    {index other : Nat} {jobId : JobId} {program : Coroutine Answer} {beside : Task}
    (found : service.tasks[index]? = some (.submit (some jobId) program))
    (also : service.tasks[other]? = some beside) (unsent : service.store.Unsent jobId)
    (working : beside.job = some jobId) : other = index := by
  have held := scope.tasks other beside also
  cases beside with
  | submit job rest =>
      cases working
      exact scope.alone other index jobId rest program also found
  | execute received rest =>
      cases working
      exact absurd held.1 (unsent _)
  | settle received outcome rest =>
      cases working
      exact absurd held.1 (unsent _)
  | poll | crashed => cases working

namespace Service.Single

variable {service : Service} (single : service.Single)

include single

/-- A new task has not sent anything. -/
theorem spawn {task : Task} (once : task.SendsOnce service.store) :
    (service.spawn [task]).Single := by
  refine ⟨single.only, ?_⟩
  intro index found member
  rcases Service.spawned_cases member with old | ⟨-, rfl⟩
  · exact single.tasks index found old
  · exact once

/-- The stores change without a new message. -/
theorem drift {store : Store} (same : store.queue.jobAt = service.store.queue.jobAt) :
    Service.Single { service with store := store } := by
  constructor
  · rw [same]
    exact single.only
  · intro index task found
    apply (single.tasks index task found).keep
    intro id jobId _ about
    rwa [same] at about

/-- One task is replaced, and the messages are those of before or one more,
which is the task's. -/
theorem replace {index : Nat} {task : Task} {store : Store} (once : task.SendsOnce store)
    (only : ∀ first second jobId, store.queue.jobAt first = some jobId →
      store.queue.jobAt second = some jobId → first = second)
    (others : ∀ other found, other ≠ index → service.tasks[other]? = some found →
      ∀ id jobId, found.job = some jobId → store.queue.jobAt id = some jobId →
        service.store.queue.jobAt id = some jobId) :
    Service.Single { service.setTask index task with store := store } := by
  refine ⟨only, ?_⟩
  intro other found member
  rcases Service.replaced_cases member with ⟨rfl, rfl⟩ | ⟨different, old⟩
  · exact once
  · exact (single.tasks other found old).keep (others other found different old)

/-- The call of a task. -/
theorem resume {settings : Settings} {index : Nat} {outcome : Outcome} {task next : Task}
    {store : Store} (scope : service.Scoped) (found : service.tasks[index]? = some task)
    (resumes : task.Resumes settings outcome service.store store next) :
    Service.Single { service.setTask index next with store := store } := by
  have once := resumes.sendsOnce scope.sent (single.tasks index task found)
  obtain ⟨op, reply, pending, called⟩ := resumes.exec
  have written := written_of_exec called
  by_cases sends : ∃ message, op = .send message ∧ store ≠ service.store
  · obtain ⟨message, rfl, changed⟩ := sends
    obtain ⟨program, rfl⟩ := ((scope.tasks index task found).may pending).send_eq
    have unsent : service.store.Unsent message.jobId := by
      obtain ⟨-, quiet | unsent⟩ := single.tasks index _ found
      · cases program with
        | call op resume =>
            cases pending
            exact absurd trivial (Program.uses_call.mp quiet).1
        | pure value => cases pending
        | raise error => cases pending
      · exact unsent _ rfl
    cases written with
    | unchanged => exact absurd rfl changed
    | sent =>
        have fresh : ∀ id jobId,
            (service.store.queue.enqueue (.job message)).jobAt id = some jobId →
              (id = service.store.queue.messages.length ∧ jobId = message.jobId) ∨
                service.store.queue.jobAt id = some jobId := by
          intro id jobId about
          rw [jobAt_enqueue] at about
          split at about
          · rename_i last
            exact .inl ⟨last, (Option.some.inj about).symm⟩
          · exact .inr about
        apply single.replace once
        · intro first second jobId one other
          rcases fresh first jobId one with ⟨rfl, rfl⟩ | old <;>
            rcases fresh second _ other with ⟨rfl, same⟩ | older
          · rfl
          · exact absurd older (unsent second)
          · exact absurd (same ▸ old) (unsent first)
          · exact single.only first second jobId old older
        · intro other beside different member id jobId working about
          rcases fresh id jobId about with ⟨-, rfl⟩ | old
          · exact absurd (scope.alone_sender found member unsent working) different
          · exact old
  · have same : store.queue.jobAt = service.store.queue.jobAt := by
      funext id
      apply Option.ext
      intro jobId
      constructor
      · intro about
        rcases written.jobAt about with before | ⟨message, rfl, -⟩
        · exact before
        · by_contra absent
          refine sends ⟨message, rfl, ?_⟩
          rintro rfl
          exact absent about
      · exact written.grows.jobAt
    apply single.replace once
    · rw [same]
      exact single.only
    · intro other beside _ _ id jobId _ about
      rwa [same] at about

end Service.Single

theorem Task.sendsOnce_working (settings : Settings) (received : ReceivedMessage)
    (program : Coroutine Unit) (store : Store) :
    (Task.working settings received program).SendsOnce store := by
  cases program <;> trivial

/-- A job has at most one message after any step. -/
theorem Step.single {env : Environment} {action : Action} {service after : Service}
    (moved : Step env service action after) (scope : service.Scoped) (single : service.Single) :
    after.Single := by
  cases moved with
  | submit context request =>
      apply single.spawn
      refine ⟨sendsOnce_submitResearchJob env context request, .inr ?_⟩
      rintro jobId ⟨⟩
  | poll context jobId => exact single.spawn trivial
  | deliver id message body found visible below named =>
      apply (single.drift (Queue.moves_markReceived service.store.queue id).jobAt).spawn
      exact Task.sendsOnce_working _ _ _ _
  | reject id message error found visible below malformed =>
      exact single.drift (Queue.moves_markReceived service.store.queue id).jobAt
  | resume index outcome task next store found resumes => exact single.resume scope found resumes
  | crash index task found live =>
      refine ⟨single.only, ?_⟩
      intro other beside member
      rcases Service.replaced_cases member with ⟨-, rfl⟩ | ⟨-, old⟩
      · trivial
      · exact single.tasks other beside old
  | expireSnapshot jobId => exact single.drift rfl
  | expireCached cacheKey => exact single.drift rfl
  | timeout id => exact single.drift (Queue.moves_timeout service.store.queue id).jobAt
  | redrive id => exact single.drift (Queue.moves_redrive service.store.queue id).jobAt

theorem Service.Single.initial (settings : Settings) (dlqArn : String)
    (aiCache : String → Option CachedPayload) :
    (Service.initial settings dlqArn aiCache).Single where
  only first second jobId about := by
    simp [Service.initial, Queue.jobAt, Queue.bodies] at about
  tasks index task found := by cases found

/-! ## Receive counts -/

/-- How often a message was received; none was before it is sent. -/
def Queue.received (queue : Queue) (id : Nat) : Nat :=
  (queue.messages[id]?).elim 0 QueueMessage.receiveCount

theorem Queue.received_eq {queue : Queue} {id : Nat} {message : QueueMessage}
    (found : queue.messages[id]? = some message) : queue.received id = message.receiveCount := by
  rw [Queue.received, found]
  rfl

/-- A move that receives nothing. -/
theorem Queue.received_update (queue : Queue) (id : Nat) {change : QueueMessage → QueueMessage}
    (keeps : ∀ message, (change message).receiveCount = message.receiveCount) :
    (queue.update id change).received = queue.received := by
  funext other
  rw [Queue.received, Queue.received, Queue.messages_update]
  split
  · cases queue.messages[other]? with
    | none => rfl
    | some message => exact keeps message
  · rfl

theorem Queue.received_delete (queue : Queue) (handle : ReceiptHandle) (honoured : Bool) :
    (queue.delete handle honoured).received = queue.received := by
  unfold Queue.delete
  split
  · apply Queue.received_update
    intro message
    split <;> rfl
  · rfl

theorem Queue.received_changeVisibility (queue : Queue) (handle : ReceiptHandle)
    (timeoutSeconds : Nat) (honoured : Bool) :
    (queue.changeVisibility handle timeoutSeconds honoured).received = queue.received := by
  unfold Queue.changeVisibility
  split
  · apply Queue.received_update
    intro message
    split <;> rfl
  · rfl

theorem Queue.received_enqueue (queue : Queue) (body : MessageBody) :
    (queue.enqueue body).received = queue.received := by
  funext id
  simp only [Queue.received, Queue.enqueue]
  rcases Nat.lt_trichotomy id queue.messages.length with below | rfl | above
  · rw [List.getElem?_append_left below]
  · simp
  · rw [List.getElem?_eq_none (by simp; omega), List.getElem?_eq_none (by omega)]

/-- No call of a task receives a message. -/
theorem Written.received {op : Op} {store after : Store} (written : Written store op after) :
    after.queue.received = store.queue.received := by
  cases written with
  | sent message => exact Queue.received_enqueue _ _
  | deleted handle honoured => exact Queue.received_delete _ _ _
  | revealed handle timeoutSeconds honoured => exact Queue.received_changeVisibility _ _ _ _
  | _ => rfl

theorem Queue.received_markReceived {queue : Queue} {id : Nat} {message : QueueMessage}
    (found : queue.messages[id]? = some message) (other : Nat) :
    (queue.markReceived id).received other =
      queue.received other + if id = other then 1 else 0 := by
  rw [Queue.received, Queue.received, Queue.markReceived, Queue.messages_update]
  split
  · rename_i same
    subst same
    rw [found]
    rfl
  · rfl

/-- The action hands out the message. -/
def Action.delivers (id : Nat) : Action → Bool
  | .deliver other => other = id
  | _ => false

/-- The broker counts every delivery, and nothing else. -/
theorem Step.received {env : Environment} {action : Action} {service after : Service}
    (moved : Step env service action after) (id : Nat) :
    after.store.queue.received id =
      service.store.queue.received id + if action.delivers id then 1 else 0 := by
  cases moved with
  | deliver other message body found visible below named =>
      have counted := Queue.received_markReceived found id
      simpa [Action.delivers] using counted
  | reject other message error found visible below malformed =>
      have counted := Queue.received_markReceived found id
      simpa [Action.delivers] using counted
  | resume index outcome task next store found resumes =>
      obtain ⟨op, reply, -, called⟩ := resumes.exec
      exact congrFun (written_of_exec called).received id
  | timeout other =>
      apply congrFun (Queue.received_update _ _ _)
      intro message
      split <;> rfl
  | redrive other =>
      apply congrFun (Queue.received_update _ _ _)
      intro message
      split <;> rfl
  | submit | poll | crash | expireSnapshot | expireCached => rfl

/-- No message is handed out more often than the redrive policy allows. -/
theorem Step.received_le {env : Environment} {action : Action} {service after : Service}
    (moved : Step env service action after)
    (bounded : ∀ id, service.store.queue.received id ≤ service.store.queue.maxReceiveCount)
    (id : Nat) :
    after.store.queue.received id ≤ after.store.queue.maxReceiveCount := by
  have limit : after.store.queue.maxReceiveCount = service.store.queue.maxReceiveCount := by
    rw [Queue.maxReceiveCount, moved.grows.attributes]
    rfl
  rw [limit, moved.received id]
  split
  · rename_i delivers
    cases moved with
    | deliver other message body found visible below named =>
        obtain rfl : other = id := of_decide_eq_true delivers
        rw [Queue.received_eq found]
        exact below
    | reject other message error found visible below malformed =>
        obtain rfl : other = id := of_decide_eq_true delivers
        rw [Queue.received_eq found]
        exact below
    | _ => cases delivers
  · exact bounded id

/-! ## The attempts of the workers -/

/-- Every worker's attempt was counted by the broker, and no two workers hold
the same one. -/
structure Service.Numbered (service : Service) : Prop where
  counted : ∀ (index : Nat) (task : Task) (received : ReceivedMessage),
    service.tasks[index]? = some task → task.delivery = some received →
      received.receiveCount ≤ service.store.queue.received received.receiptHandle.message
  distinct : ∀ (first second : Nat) (one other : Task) (received delivered : ReceivedMessage),
    service.tasks[first]? = some one → service.tasks[second]? = some other →
    one.delivery = some received → other.delivery = some delivered →
    received.receiptHandle.message = delivered.receiptHandle.message →
    received.receiveCount = delivered.receiveCount → first = second

/-- The message of a worker is about the job that it names. -/
theorem Service.Scoped.about {service : Service} (scope : service.Scoped) {index : Nat}
    {task : Task}
    {received : ReceivedMessage} (found : service.tasks[index]? = some task)
    (delivered : task.delivery = some received) :
    service.store.queue.jobAt received.receiptHandle.message = some received.body.jobId := by
  have held := scope.tasks index task found
  cases task with
  | execute other program | settle other outcome program =>
      cases delivered
      exact held.1
  | submit | poll | crashed => cases delivered

namespace Service.Numbered

/-- No task gets another delivery, and no message becomes less received. -/
theorem keep {service after : Service} (numbered : service.Numbered)
    (deliveries : ∀ (index : Nat) (task : Task) (received : ReceivedMessage),
      after.tasks[index]? = some task → task.delivery = some received →
        ∃ before, service.tasks[index]? = some before ∧ before.delivery = some received)
    (grown : ∀ id, service.store.queue.received id ≤ after.store.queue.received id) :
    after.Numbered := by
  constructor
  · intro index task received found delivered
    obtain ⟨before, old, same⟩ := deliveries index task received found delivered
    exact Nat.le_trans (numbered.counted index before received old same) (grown _)
  · intro first second one other received delivered found also delivery held
    obtain ⟨before, old, same⟩ := deliveries first one received found delivery
    obtain ⟨earlier, older, also⟩ := deliveries second other delivered also held
    exact numbered.distinct first second before earlier received delivered old older same also

/-- A worker more, whose attempt comes after all others at its message. -/
theorem spawn {service : Service} (numbered : service.Numbered) {task : Task}
    {received : ReceivedMessage} {queue : Queue} (delivery : task.delivery = some received)
    (counted : queue.received received.receiptHandle.message = received.receiveCount)
    (next : service.store.queue.received received.receiptHandle.message < received.receiveCount)
    (grown : ∀ id, service.store.queue.received id ≤ queue.received id) :
    ((service.mapStore fun store => store.putQueue queue).spawn [task]).Numbered := by
  have earlier : ∀ {index : Nat} {other : Task} {delivered : ReceivedMessage},
      service.tasks[index]? = some other → other.delivery = some delivered →
      delivered.receiptHandle.message = received.receiptHandle.message →
        delivered.receiveCount < received.receiveCount := by
    intro index other delivered found held same
    have before := numbered.counted index other delivered found held
    rw [same] at before
    exact Nat.lt_of_le_of_lt before next
  constructor
  · intro index other delivered found held
    rcases Service.spawned_cases found with old | ⟨-, rfl⟩
    · exact Nat.le_trans (numbered.counted index other delivered old held) (grown _)
    · cases delivery.symm.trans held
      exact Nat.le_of_eq counted.symm
  · intro first second one other taken delivered found also held holding same count
    rcases Service.spawned_cases found with old | ⟨rfl, rfl⟩ <;>
      rcases Service.spawned_cases also with older | ⟨rfl, rfl⟩
    · exact numbered.distinct first second one other taken delivered old older held
        holding same count
    · cases delivery.symm.trans holding
      have below := earlier old held same
      omega
    · cases delivery.symm.trans held
      have below := earlier older holding same.symm
      omega
    · rfl

end Service.Numbered

theorem Task.delivery_working (settings : Settings) (received : ReceivedMessage)
    (program : Coroutine Unit) :
    (Task.working settings received program).delivery = some received := by
  cases program <;> rfl

theorem Task.Resumes.delivery {settings : Settings} {outcome : Outcome} {store after : Store}
    {task next : Task} (resumes : task.Resumes settings outcome store after next) :
    next.delivery = task.delivery := by
  cases resumes with
  | execute received op resume reply called => exact Task.delivery_working _ _ _
  | submit | poll | settle => rfl

/-- Every attempt has its own number after any step. -/
theorem Step.numbered {env : Environment} {action : Action} {service after : Service}
    (moved : Step env service action after) (numbered : service.Numbered) : after.Numbered := by
  have grown : ∀ id, service.store.queue.received id ≤ after.store.queue.received id := by
    intro id
    rw [moved.received id]
    exact Nat.le_add_right _ _
  -- a request brings no delivery
  have request : ∀ {task : Task}, task.delivery = none →
      ∀ (index : Nat) (found : Task) (received : ReceivedMessage),
        (service.spawn [task]).tasks[index]? = some found → found.delivery = some received →
          ∃ before, service.tasks[index]? = some before ∧ before.delivery = some received := by
    intro task idle index found received member delivered
    rcases Service.spawned_cases member with old | ⟨-, rfl⟩
    · exact ⟨found, old, delivered⟩
    · cases idle.symm.trans delivered
  cases moved with
  | submit context body => exact numbered.keep (request rfl) grown
  | poll context jobId => exact numbered.keep (request rfl) grown
  | deliver id message body found visible below named =>
      have counted := Queue.received_markReceived found id
      rw [if_pos rfl, Queue.received_eq found] at counted
      apply numbered.spawn (Task.delivery_working _ _ _) counted _ grown
      rw [QueueMessage.delivery, Queue.received_eq found]
      exact Nat.lt_succ_self _
  | resume index outcome task next store found resumes =>
      apply numbered.keep _ grown
      intro other beside received member delivered
      rcases Service.replaced_cases member with ⟨rfl, rfl⟩ | ⟨-, old⟩
      · exact ⟨task, found, resumes.delivery.symm.trans delivered⟩
      · exact ⟨beside, old, delivered⟩
  | crash index task found live =>
      apply numbered.keep _ grown
      intro other beside received member delivered
      rcases Service.replaced_cases member with ⟨-, rfl⟩ | ⟨-, old⟩
      · cases delivered
      · exact ⟨beside, old, delivered⟩
  | reject | expireSnapshot | expireCached | timeout | redrive =>
      exact numbered.keep (fun _ task _ found delivered => ⟨task, found, delivered⟩) grown

/-! ## Runs -/

/-- How often a message of the job was received; its pipeline was started at most
that often. -/
def executions (queue : Queue) (jobId : JobId) (actions : List Action) : Nat :=
  actions.countP fun
    | .deliver id => queue.jobAt id = some jobId
    | _ => false

/-- What holds after any run of the service. -/
structure Service.Counted (settings : Settings) (actions : List Action) (service : Service) :
    Prop where
  scope : service.Scoped
  single : service.Single
  numbered : service.Numbered
  deliveries : ∀ id, service.store.queue.received id = actions.countP (Action.delivers id)
  bounded : ∀ id, service.store.queue.received id ≤ service.store.queue.maxReceiveCount
  provisioned : service.store.queue.maxReceiveCount = settings.maxQueueAttempts

theorem Service.Counted.initial (settings : Settings) (dlqArn : String)
    (aiCache : String → Option CachedPayload) :
    (Service.initial settings dlqArn aiCache).Counted settings [] where
  scope := .initial _ _ _
  single := .initial _ _ _
  numbered := {
    counted := fun _ _ _ found => by cases found
    distinct := fun _ _ _ _ _ _ found => by cases found
  }
  deliveries _ := rfl
  bounded _ := Nat.zero_le _
  provisioned := rfl

theorem Service.Counted.step {env : Environment} {past : List Action} {action : Action}
    {service after : Service} (counted : service.Counted env.settings past)
    (moved : Step env service action after) : after.Counted env.settings (past ++ [action]) where
  scope := moved.scoped counted.scope
  single := moved.single counted.scope counted.single
  numbered := moved.numbered counted.numbered
  deliveries id := by
    rw [moved.received id, counted.deliveries id, List.countP_append, List.countP_singleton]
  bounded := moved.received_le counted.bounded
  provisioned := by
    rw [← counted.provisioned, Queue.maxReceiveCount, moved.grows.attributes]
    rfl

theorem Service.counted_of_run {env : Environment} {dlqArn : String}
    {aiCache : String → Option CachedPayload} {permits : Action → Service → Bool}
    {actions : List Action} {service : Service}
    (ran : runWithin (Service.step env) permits actions
      (Service.initial env.settings dlqArn aiCache) = some service) :
    service.Counted env.settings actions :=
  runWithin_history (fun past service => Service.Counted env.settings past service)
    (fun _ _ _ _ _ moved counted => counted.step (Service.step_cases moved))
    (.initial env.settings dlqArn aiCache) ran

/-- All executions for a job are receives of its message. -/
theorem Service.Counted.executions_eq {settings : Settings} {actions : List Action}
    {service : Service} (counted : service.Counted settings actions) {id : Nat} {jobId : JobId}
    (about : service.store.queue.jobAt id = some jobId) :
    executions service.store.queue jobId actions = service.store.queue.received id := by
  rw [counted.deliveries id, executions]
  apply List.countP_congr
  intro action _
  cases action with
  | deliver other =>
      rw [Action.delivers, decide_eq_true_iff, decide_eq_true_iff]
      exact ⟨fun named => counted.single.only other id jobId named about, fun same => same ▸ about⟩
  | _ => exact Iff.rfl

/-- No job is executed more often than the broker hands out its message. -/
theorem executions_le {settings : Settings} {actions : List Action} {service : Service}
    (counted : service.Counted settings actions) (jobId : JobId) :
    executions service.store.queue jobId actions ≤ settings.maxQueueAttempts := by
  by_cases sent : ∃ id, service.store.queue.jobAt id = some jobId
  · obtain ⟨id, about⟩ := sent
    rw [← counted.provisioned, counted.executions_eq about]
    exact counted.bounded id
  · have none : executions service.store.queue jobId actions = 0 := by
      apply List.countP_eq_zero.mpr
      rintro (_ | _ | id | _ | _ | _ | _ | _ | _) _ delivers
      case deliver => exact sent ⟨id, of_decide_eq_true delivers⟩
      all_goals cases delivers
    rw [none]
    exact Nat.zero_le _

/-- In every run a job has at most one message, its pipeline is started at most
as often as the settings allow, and no two workers hold the same attempt. -/
theorem executions_bounded {env : Environment} {dlqArn : String}
    {aiCache : String → Option CachedPayload} {actions : List Action} {service : Service}
    (ran : run (Service.step env) actions (Service.initial env.settings dlqArn aiCache) =
      some service) :
    (∀ first second jobId, service.store.queue.jobAt first = some jobId →
        service.store.queue.jobAt second = some jobId → first = second) ∧
      (∀ jobId, executions service.store.queue jobId actions ≤ env.settings.maxQueueAttempts) ∧
      (∀ (index : Nat) (task : Task) (received : ReceivedMessage),
        service.tasks[index]? = some task → task.delivery = some received →
          received.receiveCount ≤ env.settings.maxQueueAttempts) ∧
      ∀ (first second : Nat) (one other : Task) (received delivered : ReceivedMessage),
        service.tasks[first]? = some one → service.tasks[second]? = some other →
        one.delivery = some received → other.delivery = some delivered →
        received.body.jobId = delivered.body.jobId →
        received.receiveCount = delivered.receiveCount → first = second := by
  have counted := Service.counted_of_run ran
  refine ⟨counted.single.only, executions_le counted, ?_, ?_⟩
  · intro index task received found delivered
    rw [← counted.provisioned]
    exact Nat.le_trans (counted.numbered.counted index task received found delivered)
      (counted.bounded _)
  · intro first second one other received delivered found also held holding named same
    have about := counted.scope.about found held
    have concerning := counted.scope.about also holding
    apply counted.numbered.distinct first second one other received delivered found also
      held holding
    · rw [← named] at concerning
      exact counted.single.only _ _ _ about concerning
    · exact same

/-- A first attempt that fails, and the second one. -/
def redelivery : List Action :=
  Sample.submission ++ .deliver 0 ::
    Sample.calls 1 [.failed Sample.fault, .done (.flag true)] ++ [.deliver 0]

theorem executions_bounded_redelivery :
    ∃ service, run (Service.step Sample.environment) redelivery Sample.cold = some service ∧
      executions service.store.queue "job-1" redelivery = 2 ∧
      executions service.store.queue "job-1" redelivery ≤ 3 :=
  ⟨_, Sample.ran_after (by decide), by decide,
    (executions_bounded (Sample.ran_after (by decide))).2.1 "job-1"⟩

end ResearchTool
