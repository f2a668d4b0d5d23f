import ResearchTool.Tenancy

/-!
# One attempt at a job

What an execution of the pipeline does to the row of its job and to its
message while nobody else works on the job, whichever of its calls fail.
-/

namespace ResearchTool

open Process

/-- The custody of one job whose calls may end in any way. -/
def unguarded (jobId : JobId) : Custody where
  permits _ _ := true
  rely := Store.Leaves jobId
  rely_refl := .refl jobId
  rely_trans := .trans

/-! ## The row -/

/-- The row after an attempt at a job that had the given status. -/
def Attempted (jobId : JobId) (status : JobStatus) (outcome : Except Exn Unit) (store : Store) :
    Prop :=
  ∃ row, store.jobs jobId = some row ∧
    (row.status = status ∨ row.status = .processing ∨ row.status = .completed) ∧
    (outcome.isOk = true → row.status = .completed)

section

variable {jobId : JobId} {α β : Type} {store : Store} {post : Except Exn α → Store → Prop}
  {row : ResearchJobRecord}

/-- A program that leaves the rows alone, and what follows from its value. -/
theorem safe_beside {program : Coroutine β} {next : β → Coroutine α} {given : β → Prop}
    (uses : program.Uses Op.SparesRows) (returns : program.Returns given)
    (stored : store.jobs jobId = some row)
    (returned : ∀ value now, given value → now.jobs jobId = some row →
      (next value).Safe (unguarded jobId).protocol post now)
    (raised : ∀ error now, now.jobs jobId = some row → post (.error error) now) :
    (program.bind next).Safe (unguarded jobId).protocol post store := by
  have safe : program.Safe (unguarded jobId).protocol (fun _ now => now.jobs jobId = some row)
      store := by
    refine uses.safe ?_ (fun _ _ left kept => left.job.trans kept) stored
    rintro op before reply after spares - kept ⟨outcome, -, called⟩
    refine ⟨trivial, trivial, ?_⟩
    rw [((written_of_exec called).sparesRows spares).1]
    exact kept
  apply (safe.returning returns).bind trivial
  · rintro value now - ⟨kept, told⟩
    exact returned value now (told value rfl) kept
  · rintro error now - ⟨kept, -⟩
    exact raised error now kept

/-- A program that leaves the rows alone, and what follows. -/
theorem safe_aside {program : Coroutine β} {next : β → Coroutine α}
    (uses : program.Uses Op.SparesRows) (stored : store.jobs jobId = some row)
    (returned : ∀ value now, now.jobs jobId = some row →
      (next value).Safe (unguarded jobId).protocol post now)
    (raised : ∀ error now, now.jobs jobId = some row → post (.error error) now) :
    (program.bind next).Safe (unguarded jobId).protocol post store :=
  safe_beside uses (Program.returns_of_forall _ _ fun _ => trivial) stored
    (fun value now (_ : True) => returned value now) raised

/-- An update of the row is carried out, or raises before or after it was. -/
theorem safe_update {session : Session} {changes : JobChanges} {next : Session → Coroutine α}
    (stored : store.jobs jobId = some row)
    (loaded : session.jobs jobId = none ∨ session.jobs jobId = some row)
    (returned : ∀ updated now, updated.jobs jobId = some (changes.apply row) →
      now.jobs jobId = some (changes.apply row) →
        (next updated).Safe (unguarded jobId).protocol post now)
    (raised : ∀ error now, now.jobs jobId = some row ∨ now.jobs jobId = some (changes.apply row) →
      post (.error error) now) :
    ((updateJobStatus session jobId changes).bind next).Safe (unguarded jobId).protocol post
      store := by
  -- a call that leaves the row alone and raises
  have left : ∀ {op : Op} {before now after : Store} {error : Exn} {outcome : Outcome}
      {current : ResearchJobRecord}, exec op outcome now = some (.error error, after) →
      op.SparesRows → before.jobs jobId = some current → (unguarded jobId).rely before now →
      ∀ later, (unguarded jobId).rely after later → later.jobs jobId = some current := by
    intro op before now after error outcome current called spares present reached later left
    have same := ((written_of_exec called).sparesRows spares).1
    exact left.job.trans ((congrFun same jobId).trans (reached.job.trans present))
  rw [updateJobStatus_eq, Program.bind_assoc]
  apply Custody.safe_await
  case raised =>
    intro error now after outcome reached _ called
    apply Custody.safe_raise
    intro later passed
    exact raised error later (.inl (left called trivial stored reached later passed))
  intro selected first second outcome reached _ called
  obtain ⟨same, rfl⟩ := selectJob_ok called
  have kept : second.jobs jobId = some row := reached.job.trans stored
  have identified : identify (session.jobs jobId) selected = some row := by
    rcases loaded with unloaded | same'
    · simp [identify, unloaded, same, kept]
    · simp [identify, same', same, kept]
  simp only [identified, Program.bind_assoc]
  apply Custody.safe_await
  case raised =>
    intro error now after outcome further _ called
    apply Custody.safe_raise
    intro later passed
    apply raised error later
    have before : now.jobs jobId = some row := further.job.trans kept
    cases written_of_exec called with
    | unchanged => exact .inl (passed.job.trans before)
    | updated id changed current present =>
        cases before.symm.trans present
        right
        rw [passed.job, Store.putJob_jobs, Function.update_self, JobChanges.against_apply]
  intro value third fourth outcome further _ called
  have written : fourth.jobs jobId = some (changes.apply row) := by
    obtain ⟨supply, -, answered⟩ := answer_of_exec_ok called
    obtain ⟨-, rfl⟩ := answer_updateJob (further.job.trans kept) answered
    rw [Store.putJob_jobs, Function.update_self, JobChanges.against_apply]
  apply Custody.safe_await
  case raised =>
    intro error now after outcome later _ called
    apply Custody.safe_raise
    intro final passed
    exact raised error final (.inr (left called trivial written later final passed))
  intro refreshed fifth sixth outcome later _ called
  obtain ⟨supply, -, answered⟩ := answer_of_exec_ok called
  have current : fifth.jobs jobId = some (changes.apply row) := later.job.trans written
  obtain ⟨replied, rfl⟩ := answer_refreshJob current answered
  cases replied
  exact returned _ _ (Function.update_self _ _ _) current

end

section

variable {jobId : JobId}

theorem Op.IsAnalysis.sparesRows {op : Op} (analysis : op.IsAnalysis jobId) : op.SparesRows := by
  cases op with
  | now | getCachedAiResult | setCachedAiResult | analyze | setState => trivial
  | _ => cases analysis

/-- An attempt that raises after the row was written as it is now. -/
theorem attempted_of_error {status : JobStatus} {row : ResearchJobRecord} {error : Exn}
    {store : Store} (stored : store.jobs jobId = some row)
    (written : row.status = status ∨ row.status = .processing ∨ row.status = .completed) :
    Attempted jobId status (.error error) store :=
  ⟨row, stored, written, nofun⟩

/-- The stage that completes the job. -/
theorem attempted_completionStage {session : Session} (rawContext : RepositoryRawContext)
    (cacheKey : String) (analysis : Analysis) {status : JobStatus} {row : ResearchJobRecord}
    {store : Store} (stored : store.jobs jobId = some row)
    (loaded : session.jobs jobId = some row) (processing : row.status = .processing) :
    (completionStage session jobId rawContext cacheKey analysis).Safe (unguarded jobId).protocol
      (Attempted jobId status) store := by
  have raised : ∀ (error : Exn) (now : Store), now.jobs jobId = some row →
      Attempted jobId status (.error error) now := fun error now kept =>
    attempted_of_error kept (.inr (.inl processing))
  refine safe_aside (.perform ?_) stored ?_ raised
  · trivial
  intro createdAt first kept
  apply safe_beside _ (returns_saveFinalReport _ _ _) kept _ raised
  · exact uses_saveFinalReport _ _ _ trivial trivial (fun _ => trivial) (fun _ => trivial) trivial
  intro saved second same kept
  apply safe_update kept (.inr (same ▸ loaded))
  case raised =>
    rintro error now (before | after)
    · exact raised error now before
    · exact attempted_of_error after (.inr (.inr rfl))
  intro updated third _ completed
  refine safe_aside (.perform ?_) completed ?_ fun error now kept =>
    attempted_of_error kept (.inr (.inr rfl))
  · trivial
  intro time fourth completed
  rw [← Program.bind_pure (await (.setState _))]
  refine safe_aside (.perform ?_) completed ?_ fun error now kept =>
    attempted_of_error kept (.inr (.inr rfl))
  · trivial
  intro _ fifth completed
  apply Custody.safe_pure
  intro now left
  exact ⟨_, left.job.trans completed, .inr (.inr rfl), fun _ => rfl⟩

theorem attempted_pipelineSession (env : Environment) (target : ParsedRepoTarget)
    {row : ResearchJobRecord} {store : Store} (stored : store.jobs jobId = some row) :
    (pipelineSession env jobId target .empty).Safe (unguarded jobId).protocol
      (Attempted jobId row.status) store := by
  apply safe_update stored (.inl rfl)
  case raised =>
    rintro error now (before | after)
    · exact attempted_of_error before (.inl rfl)
    · exact attempted_of_error after (.inr (.inl rfl))
  intro started first loaded kept
  obtain ⟨begun, loaded, kept, processing⟩ : ∃ begun, started.jobs jobId = some begun ∧
      first.jobs jobId = some begun ∧ begun.status = .processing := ⟨_, loaded, kept, rfl⟩
  have raised : ∀ (error : Exn) (now : Store), now.jobs jobId = some begun →
      Attempted jobId row.status (.error error) now := fun error now kept =>
    attempted_of_error kept (.inr (.inl processing))
  refine safe_aside (.perform ?_) kept ?_ raised
  · trivial
  intro rawContext second kept
  refine safe_aside (.perform ?_) kept ?_ raised
  · trivial
  intro time third kept
  refine safe_aside (.perform ?_) kept ?_ raised
  · trivial
  intro _ fourth kept
  apply safe_update kept (.inr loaded)
  case raised =>
    rintro error now (before | after)
    · exact raised error now before
    · exact attempted_of_error after (.inr (.inl processing))
  intro prepared fifth current kept
  apply safe_aside ((uses_analysisStage env jobId rawContext _).mono fun _ =>
    Op.IsAnalysis.sparesRows) kept
  case raised =>
    intro error now kept
    exact attempted_of_error kept (.inr (.inl processing))
  intro analysis sixth kept
  exact attempted_completionStage _ _ _ kept current processing

theorem attempted_executeResearchPipeline (env : Environment) (message : ResearchJobMessage)
    {row : ResearchJobRecord} {store : Store} (stored : store.jobs message.jobId = some row) :
    (executeResearchPipeline env message).Safe (unguarded message.jobId).protocol
      (Attempted message.jobId row.status) store := by
  have raised : ∀ (error : Exn) (now : Store), now.jobs message.jobId = some row →
      Attempted message.jobId row.status (.error error) now := fun error now kept =>
    attempted_of_error kept (.inl rfl)
  unfold executeResearchPipeline
  generalize parseGithubRepositoryUrl env.urlLibrary message.repoUrl = parsed
  apply safe_aside (Program.uses_ofExcept _) stored _ raised
  intro target begun kept
  refine safe_aside (.perform ?_) kept ?_ raised
  · trivial
  intro existing first kept
  refine safe_aside (.perform ?_) kept ?_ raised
  · trivial
  intro time second kept
  refine safe_aside (.perform ?_) kept ?_ raised
  · trivial
  intro _ third kept
  rw [withSession_eq]
  have session : (Program.attempt (pipelineSession env message.jobId target .empty)).Safe
      (unguarded message.jobId).protocol (fun ended now => ∃ outcome, ended = .ok outcome ∧
        Attempted message.jobId row.status outcome now) third :=
    ((attempted_pipelineSession env target kept).weaken fun outcome now _ held =>
      ⟨outcome, rfl, held⟩).attempt
  apply session.bind trivial
  case failed =>
    rintro error now - ⟨outcome, impossible, -⟩
    cases impossible
  rintro ended fourth - ⟨outcome, same, current, present, status, completed⟩
  cases same
  refine safe_aside (.perform ?_) present ?_ fun error now kept =>
    attempted_of_error kept status
  · trivial
  intro _ fifth kept
  cases ended with
  | ok value =>
      apply Custody.safe_pure
      intro now left
      exact ⟨current, left.job.trans kept, status, completed⟩
  | error error =>
      apply Custody.safe_raise
      intro now left
      exact ⟨current, left.job.trans kept, status, completed⟩

end

/-! ## The message -/

/-- A message about a job is there. -/
theorem message_of_jobAt {queue : Queue} {id : Nat} {jobId : JobId}
    (about : queue.jobAt id = some jobId) :
    ∃ message, queue.messages[id]? = some message := by
  obtain ⟨body, found, -⟩ := Option.bind_eq_some_iff.mp about
  rw [Queue.bodies, List.getElem?_map] at found
  obtain ⟨message, present, -⟩ := Option.map_eq_some_iff.mp found
  exact ⟨message, present⟩

/-- What holds of every message of a job and is kept while it waits. -/
theorem messages_of_leaves {limit : Nat} {jobId : JobId} {before after : Store}
    {fact held : QueueMessage → Prop} (left : before.Leaves jobId after)
    (messages : before.queue.maxReceiveCount = limit → ∀ id message,
      before.queue.jobAt id = some jobId → before.queue.messages[id]? = some message →
      fact message)
    (waiting : ∀ message moved, message.Waits limit moved → fact message → held moved) :
    after.queue.maxReceiveCount = limit → ∀ id message, after.queue.jobAt id = some jobId →
      after.queue.messages[id]? = some message → held message := by
  intro provisioned id moved about present
  have same : before.queue.maxReceiveCount = limit := by
    rw [← provisioned, Queue.maxReceiveCount, ← left.attributes]
    rfl
  have sent := (left.sent id).mp about
  obtain ⟨message, found⟩ := message_of_jobAt sent
  obtain ⟨other, there, waits⟩ := left.messages id message sent found
  cases there.symm.trans present
  rw [same] at waits
  exact waiting message moved waits (messages same id message sent found)

/-- The message of a delivery is the only one about its job, and was last
received for this delivery. -/
structure Held (limit : Nat) (received : ReceivedMessage) (store : Store) : Prop where
  provisioned : store.queue.maxReceiveCount = limit
  about : ∀ id, store.queue.jobAt id = some received.body.jobId ↔
    id = received.receiptHandle.message
  current : received.receiptHandle.receive = received.receiveCount
  message : ∃ message, store.queue.messages[received.receiptHandle.message]? = some message ∧
    message.receiveCount = received.receiveCount ∧
    (message.place = .deadLetter → limit ≤ received.receiveCount)

/-- The message of a delivery has not been deleted. -/
def Undeleted (received : ReceivedMessage) (store : Store) : Prop :=
  ∀ message, store.queue.messages[received.receiptHandle.message]? = some message →
    message.place ≠ .deleted

section

variable {limit : Nat} {received : ReceivedMessage} {before after : Store}

theorem Held.leave (left : before.Leaves received.body.jobId after)
    (held : Held limit received before) : Held limit received after := by
  obtain ⟨message, found, counted, redriven⟩ := held.message
  obtain ⟨moved, present, waited⟩ := left.messages _ message ((held.about _).mpr rfl) found
  refine ⟨?_, fun id => (left.sent id).trans (held.about id), held.current, moved, present, ?_, ?_⟩
  · rw [← held.provisioned, Queue.maxReceiveCount, left.attributes]
    rfl
  · exact waited.receiveCount.trans counted
  · intro moved
    rcases waited.redriven moved with deadLetter | exhausted
    · exact redriven deadLetter
    · rwa [held.provisioned, counted] at exhausted

theorem Undeleted.leave (left : before.Leaves received.body.jobId after)
    (held : Held limit received before) (undeleted : Undeleted received before) :
    Undeleted received after := by
  intro moved present
  obtain ⟨message, found, -⟩ := held.message
  obtain ⟨other, same, waited⟩ := left.messages _ message ((held.about _).mpr rfl) found
  cases same.symm.trans present
  exact fun deleted => undeleted message found (waited.deleted.mp deleted)

theorem Undeleted.of_queue (same : after.queue = before.queue)
    (undeleted : Undeleted received before) : Undeleted received after := by
  rw [Undeleted, same]
  exact undeleted

theorem Held.of_queue (same : after.queue = before.queue) (held : Held limit received before) :
    Held limit received after := by
  constructor
  · rw [same]
    exact held.provisioned
  · rw [same]
    exact held.about
  · exact held.current
  · rw [same]
    exact held.message

/-- A move of the message by its holder. -/
theorem Held.update {change : QueueMessage → QueueMessage} (held : Held limit received before)
    (keepsBody : ∀ message, (change message).body = message.body)
    (counted : ∀ message, (change message).receiveCount = message.receiveCount)
    (redriven : ∀ message, (change message).place = .deadLetter → message.place = .deadLetter) :
    Held limit received
      (before.putQueue (before.queue.update received.receiptHandle.message change)) := by
  obtain ⟨message, found, count, deadLetter⟩ := held.message
  have moves := Queue.moves_update before.queue received.receiptHandle.message keepsBody
  refine ⟨held.provisioned, ?_, held.current, change message, ?_, ?_, ?_⟩
  · rw [Store.putQueue_queue, moves.jobAt]
    exact held.about
  · rw [Store.putQueue_queue, Queue.messages_update, if_pos rfl, found]
    rfl
  · exact (counted message).trans count
  · exact fun moved => deadLetter (redriven message moved)

theorem Written.sparesQueue {op : Op} (written : Written before op after)
    (spares : op.SparesQueue) : after.queue = before.queue := by
  cases written with
  | sent | deleted | revealed => cases spares
  | _ => rfl

/-- A worker keeps hold of its message while it handles the outcome. -/
theorem Held.settle {op : Op} (settling : op.IsSettling received)
    (written : Written before op after)
    (held : Held limit received before) : Held limit received after := by
  cases written with
  | deleted handle honoured =>
      cases settling
      unfold Queue.delete
      split
      · apply held.update
        · intro message
          split <;> rfl
        · intro message
          split <;> rfl
        · intro message
          split
          · exact id
          · nofun
      · exact held.of_queue rfl
  | revealed handle timeoutSeconds honoured =>
      cases settling
      unfold Queue.changeVisibility
      split
      · apply held.update
        · intro message
          split <;> rfl
        · intro message
          split <;> rfl
        · intro message
          split
          · nofun
          · exact id
      · exact held.of_queue rfl
  | inserted | reported | revised | sent | fetched | cached => cases settling
  | unchanged | snapshot | updated =>
      exact ⟨held.provisioned, held.about, held.current, held.message⟩

/-- The message of a delivery is with its worker. -/
structure Handled (limit : Nat) (received : ReceivedMessage) (store : Store) : Prop where
  held : Held limit received store
  undeleted : Undeleted received store

theorem Handled.leave (left : before.Leaves received.body.jobId after)
    (handled : Handled limit received before) : Handled limit received after :=
  ⟨handled.held.leave left, handled.undeleted.leave left handled.held⟩

theorem Handled.of_queue (same : after.queue = before.queue)
    (handled : Handled limit received before) : Handled limit received after :=
  ⟨handled.held.of_queue same, handled.undeleted.of_queue same⟩

/-- A program that spares the queue leaves the message to its worker. -/
theorem safe_handled {α : Type} {program : Coroutine α} {store : Store}
    {post : Except Exn α → Store → Prop} {terms : Custody} {stage : Stage} {tenancy : Tenancy}
    (staged : stage.job = received.body.jobId) (safe : program.Safe terms.protocol post store)
    (uses : program.Uses Op.SparesQueue)
    (rely : ∀ before after, before.Leaves received.body.jobId after → terms.rely before after)
    (permits : ∀ op outcome, tenancy.permits stage op outcome = true →
      terms.permits op outcome = true)
    (bears : ∀ now, Handled limit received now → tenancy.bears stage now)
    (handled : Handled limit received store) :
    program.Safe (tenancy.protocol stage)
      (fun outcome now => Handled limit received now ∧ post outcome now) store := by
  refine safe.under uses (fun _ _ => trivial) ?_ ?_ ?_ ?_ handled
  · intro before after left
    exact rely before after (staged ▸ left)
  · rintro op before reply after ⟨outcome, permitted, called⟩
    exact ⟨outcome, permits op outcome permitted, called⟩
  · intro before after left
    exact Handled.leave (staged ▸ left)
  · rintro op before reply after spares handled ⟨outcome, -, called⟩
    have still := handled.of_queue ((written_of_exec called).sparesQueue spares)
    exact ⟨still, bears after still, trivial⟩

/-- A message that is handed out is held by the worker that gets it. -/
theorem handled_markReceived {store : Store} {id : Nat} {message : QueueMessage}
    {body : ResearchJobMessage} (found : store.queue.messages[id]? = some message)
    (named : message.body = .job body)
    (only : ∀ other, store.queue.jobAt other = some body.jobId → other = id)
    (provisioned : store.queue.maxReceiveCount = limit) :
    Handled limit (message.delivery id body) (store.putQueue (store.queue.markReceived id)) := by
  have about : store.queue.jobAt id = some body.jobId := by
    rw [Queue.jobAt_of_found found, named, MessageBody.jobId?]
  have marked : (store.queue.markReceived id).messages[id]? =
      some { message with receiveCount := message.receiveCount + 1, place := .inFlight } := by
    rw [Queue.markReceived, Queue.messages_update, if_pos rfl, found]
    rfl
  refine ⟨⟨provisioned, ?_, rfl, _, marked, rfl, ?_⟩, ?_⟩
  · intro other
    rw [Store.putQueue_queue, (Queue.moves_markReceived _ _).jobAt]
    constructor
    · exact only other
    · rintro rfl
      exact about
  · intro deadLetter
    cases deadLetter
  · intro other present
    cases marked.symm.trans present
    intro deleted
    cases deleted

/-- The holder of a message deletes it, unless it is in the dead-letter queue. -/
theorem Held.delete (held : Held limit received before) (honoured : Bool) :
    ∀ message, (before.queue.delete received.receiptHandle honoured).messages[
        received.receiptHandle.message]? = some message →
      message.place = .deleted ∨ message.place = .deadLetter := by
  obtain ⟨message, found, counted, -⟩ := held.message
  have latest : before.queue.isCurrent received.receiptHandle = true := by
    simp [Queue.isCurrent, found, counted, held.current]
  intro moved present
  rw [Queue.delete, latest, Bool.true_or, if_pos rfl, Queue.messages_update, if_pos rfl,
    found] at present
  cases present
  simp only
  split
  · exact .inr ‹_›
  · exact .inl rfl

/-- Nobody deletes a message by making it visible. -/
theorem Undeleted.changeVisibility (undeleted : Undeleted received before) (handle : ReceiptHandle)
    (timeoutSeconds : Nat) (honoured : Bool) :
    Undeleted received
      (before.putQueue (before.queue.changeVisibility handle timeoutSeconds honoured)) := by
  intro moved present
  rw [Store.putQueue_queue, Queue.changeVisibility] at present
  split at present
  · rw [Queue.messages_update] at present
    split at present
    · obtain ⟨message, found, rfl⟩ := Option.map_eq_some_iff.mp present
      split
      · nofun
      · exact undeleted message found
    · exact undeleted moved present
  · exact undeleted moved present

end

/-! ## The submission -/

/-- A job whose message has just been sent. -/
structure Store.Queued (jobId : JobId) (store : Store) : Prop where
  pending : ∃ row, store.jobs jobId = some row ∧ row.status = .pending
  message : ∃ id message, (∀ other, store.queue.jobAt other = some jobId ↔ other = id) ∧
    store.queue.messages[id]? = some message ∧ message.receiveCount = 0 ∧ message.place = .visible

theorem Store.Unsent.leave {jobId : JobId} {before after : Store}
    (left : before.Leaves jobId after) (unsent : before.Unsent jobId) : after.Unsent jobId :=
  fun id about => unsent id ((left.sent id).mp about)

/-- Only a send makes a job queued. -/
theorem Store.Unsent.written {jobId : JobId} {op : Op} {before after : Store}
    (unsent : before.Unsent jobId) (written : Written before op after) (plain : ¬ op.IsSend) :
    after.Unsent jobId := by
  intro id about
  rcases written.jobAt about with old | ⟨message, rfl, -⟩
  · exact unsent id old
  · exact plain trivial

/-- The message of a registered job is sent. -/
theorem Store.Unsent.queued {store : Store} {jobId : JobId} {message : ResearchJobMessage}
    {row : ResearchJobRecord} (unsent : store.Unsent jobId)
    (stored : store.jobs jobId = some row) (pending : row.status = .pending)
    (named : message.jobId = jobId) :
    (store.putQueue (store.queue.enqueue (.job message))).Queued jobId := by
  refine ⟨⟨row, stored, pending⟩, store.queue.messages.length, { body := .job message }, ?_, ?_,
    rfl, rfl⟩
  · intro other
    rw [Store.putQueue_queue, jobAt_enqueue]
    constructor
    · intro about
      by_contra different
      rw [if_neg different] at about
      exact unsent other about
    · intro last
      rw [if_pos last]
      exact congrArg some named
  · simp [Queue.enqueue]

/-- One call of a tenant whose exception is caught. -/
theorem Tenancy.safe_attempt {tenancy : Tenancy} {stage : Stage} {α : Type} {op : Op}
    {next : Except Exn op.Reply → Coroutine α} {post : Except Exn α → Store → Prop} {store : Store}
    (replied : ∀ reply now after outcome, store.Leaves stage.job now →
      tenancy.permits stage op outcome = true → exec op outcome now = some (reply, after) →
        tenancy.bears stage after ∧ (next reply).Safe (tenancy.protocol stage) post after) :
    ((Program.attempt (await op)).bind next).Safe (tenancy.protocol stage) post store := by
  have caught : (Program.attempt (await op)).bind next = .call op next :=
    Program.attempt_perform_bind (S := Ops) op next
  rw [caught, Program.safe_call]
  rintro now reply after - left ⟨outcome, permitted, called⟩
  obtain ⟨bears, rest⟩ := replied reply now after outcome left permitted called
  exact ⟨bears, trivial, rest⟩

section

variable {tenancy : Tenancy} {jobId : JobId}
  (bare : ∀ store, store.Unsent jobId →
    tenancy.bears (.submission jobId) store ∧ tenancy.rests jobId [] store)
  (queued : ∀ store, store.Queued jobId →
    tenancy.bears (.submission jobId) store ∧ tenancy.rests jobId [] store)
  (known : ∀ message supply error,
    tenancy.permits (.submission jobId) (.send message) (.lost supply error) = false)

include bare

/-- A submission that sends nothing. -/
theorem safe_unsent {α : Type} {program : Coroutine α} {store : Store}
    (uses : program.Uses Op.IsQuiet) (unsent : store.Unsent jobId) :
    program.Safe (tenancy.protocol (.submission jobId)) (fun _ now => tenancy.rests jobId [] now)
      store := by
  have safe : program.Safe (tenancy.protocol (.submission jobId)) (fun _ now => now.Unsent jobId)
      store := by
    refine uses.safe ?_ (fun _ _ left unsent => unsent.leave left) unsent
    rintro op before reply after plain - unsent ⟨outcome, -, called⟩
    have still := unsent.written (written_of_exec called) plain
    exact ⟨(bare after still).1, trivial, still⟩
  exact safe.weaken fun outcome now _ unsent => (bare now unsent).2

/-- A submission before its message, with a row that stays as it is. -/
theorem safe_before {α β : Type} {program : Coroutine β} {next : β → Coroutine α}
    {row : ResearchJobRecord} {store : Store} (uses : program.Uses Op.SparesRows)
    (stored : store.jobs jobId = some row) (unsent : store.Unsent jobId)
    (rest : ∀ value now, now.jobs jobId = some row → now.Unsent jobId →
      (next value).Safe (tenancy.protocol (.submission jobId))
        (fun _ now => tenancy.rests jobId [] now) now) :
    (program.bind next).Safe (tenancy.protocol (.submission jobId))
      (fun _ now => tenancy.rests jobId [] now) store := by
  have safe : program.Safe (tenancy.protocol (.submission jobId))
      (fun _ now => now.jobs jobId = some row ∧ now.Unsent jobId) store := by
    refine uses.safe ?_ (fun _ _ left held => ⟨left.job.trans held.1, held.2.leave left⟩)
      ⟨stored, unsent⟩
    rintro op before reply after spares - ⟨kept, unsent⟩ ⟨outcome, -, called⟩
    obtain ⟨jobs, queue⟩ := (written_of_exec called).sparesRows spares
    have still : after.Unsent jobId := by
      rw [Store.Unsent, queue]
      exact unsent
    exact ⟨(bare after still).1, trivial, (congrFun jobs jobId).trans kept, still⟩
  apply safe.bind (bare store unsent).1
  · rintro value now - ⟨kept, still⟩
    exact rest value now kept still
  · rintro error now - ⟨-, still⟩
    exact (bare now still).2

include queued known

/-- The message is sent, or known not to be. -/
theorem safe_queueing {session : Session} {target : ParsedRepoTarget} {now : DateTime}
    {instantData : InstantMetadata} {row : ResearchJobRecord} {store : Store}
    (request : ResearchRequest) (stored : store.jobs jobId = some row)
    (pending : row.status = .pending) (unsent : store.Unsent jobId) :
    (enqueueJob session target request jobId (pendingSnapshot jobId now instantData)).Safe
      (tenancy.protocol (.submission jobId)) (fun _ now => tenancy.rests jobId [] now) store := by
  refine safe_before bare (.perform ?_) stored unsent ?_
  · trivial
  intro enqueuedAt first kept unsent
  apply Tenancy.safe_attempt
  intro reply second third outcome left permitted called
  have kept : second.jobs jobId = some row := left.job.trans kept
  have unsent := unsent.leave left
  cases outcome with
  | lost supply error => simp [known] at permitted
  | done supply =>
      have sent := answer_send called
      have held : third.Queued jobId := by
        rw [sent]
        exact unsent.queued kept pending rfl
      refine ⟨(queued third held).1, ?_⟩
      cases reply with
      | ok value =>
          apply Program.safe_pure.mpr
          intro now _ left
          exact tenancy.rests_of_leaves left (queued third held).2
      | error error => cases supply <;> cases called
  | failed error =>
      cases eq_of_not_takesEffect called rfl
      refine ⟨(bare _ unsent).1, ?_⟩
      cases reply with
      | ok value =>
          apply Program.safe_pure.mpr
          intro now _ left
          exact tenancy.rests_of_leaves left (bare _ unsent).2
      | error error => exact safe_unsent bare (quiet_enqueueFailed _ _ _ _ _) unsent

/-- From the row on, a submission keeps such terms. -/
theorem safe_announcing {target : ParsedRepoTarget} {rawContext : RepositoryRawContext}
    {store : Store} (request : ResearchRequest)
    (founded : store.Founded (pendingRecord target rawContext jobId)) :
    ((await (.refreshJob jobId)).bind fun refreshed =>
      announceJob (Session.empty.loadJob jobId refreshed) target request rawContext jobId).Safe
      (tenancy.protocol (.submission jobId)) (fun _ now => tenancy.rests jobId [] now) store := by
  refine safe_before bare (.perform ?_) founded.job founded.unsent ?_
  · trivial
  intro refreshed first kept unsent
  refine safe_before bare (.perform ?_) kept unsent ?_
  · trivial
  intro time second kept unsent
  refine safe_before bare (.perform ?_) kept unsent ?_
  · trivial
  intro _ third kept unsent
  refine safe_before bare (.perform ?_) kept unsent ?_
  · trivial
  intro cached fourth kept unsent
  cases cached with
  | some cachedAi =>
      exact safe_unsent bare (quiet_completeFromCache _ _ _ _ _) unsent
  | none => exact safe_queueing bare queued known request kept rfl unsent

end

end ResearchTool
