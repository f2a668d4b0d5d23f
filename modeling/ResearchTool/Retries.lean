import ResearchTool.Agreement
import ResearchTool.Attempts

/-!
# Retries

The worker compares the receive count with the number of allowed attempts, and
so does the broker before it hands a message out again.  While one task at a
time works on a job, no send is lost, the messages validate and the worker gets
to handle every outcome, the two comparisons fit: the job is retried until the
pipeline returns, and marked as failed if and only if every allowed attempt
raised.
-/

namespace ResearchTool

open Process

namespace Retries

/-- The pipeline may fail in any way; its outcome is handled, and a message
that was sent is known to be sent. -/
def outcomesHandled : Stage → Op → Outcome → Bool
  | .submission _, .send _, .lost _ _ => false
  | .settlement _, _, outcome => !outcome.faulty
  | _, _, _ => true

/-- Submissions may crash, workers do not. -/
def mayCrash : Stage → Bool
  | .submission _ => true
  | _ => false

/-- Every attempt raised. -/
def AllRaised (past : List Verdict) : Prop :=
  ∀ verdict ∈ past, verdict.2.isOk = false

/-- What the given attempts at a job have come to. -/
inductive Fate (limit : Nat) (jobId : JobId) (past : List Verdict) (message : QueueMessage)
    (store : Store) : Prop where
  /-- there are attempts left -/
  | waiting (raised : AllRaised past) (more : past.length < limit)
      (undeleted : message.place ≠ .deleted) (queued : message.place ≠ .deadLetter)
      (unmarked : ∀ row, store.jobs jobId = some row → row.status ≠ .failed)
  /-- the last attempt returned -/
  | succeeded (earlier : List Verdict) (received : ReceivedMessage)
      (last : past = earlier ++ [(received, .ok ())]) (raised : AllRaised earlier)
      (gone : message.place = .deleted ∨ message.place = .deadLetter)
      (completed : ∃ row, store.jobs jobId = some row ∧ row.status = .completed)
  /-- every allowed attempt raised -/
  | exhausted (earlier : List Verdict) (received : ReceivedMessage) (error : Exn)
      (last : past = earlier ++ [(received, .error error)]) (raised : AllRaised earlier)
      (all : past.length = limit) (marked : Agreement.Marked jobId error store)

/-- A message and the attempts that were made with it. -/
structure Tried (limit : Nat) (jobId : JobId) (past : List Verdict) (message : QueueMessage)
    (store : Store) : Prop where
  counted : message.receiveCount = past.length
  numbered : past.map (fun verdict => verdict.1.receiveCount) = List.range' 1 past.length
  bounded : past.length ≤ limit
  fate : Fate limit jobId past message store

/-- The attempts at a job that nobody works on are those made with its message. -/
def Rests (limit : Nat) (jobId : JobId) (past : List Verdict) (store : Store) : Prop :=
  store.queue.maxReceiveCount = limit → ∀ id message, store.queue.jobAt id = some jobId →
    store.queue.messages[id]? = some message → Tried limit jobId past message store

def Bears (limit : Nat) : Stage → Store → Prop
  | .submission jobId, store => Rests limit jobId [] store
  | .execution received, store => Handled limit received store
  | .settlement received, store => Held limit received store

variable {limit : Nat} {jobId : JobId} {past : List Verdict}

theorem AllRaised.append {received : ReceivedMessage} {error : Exn} (raised : AllRaised past) :
    AllRaised (past ++ [(received, .error error)]) := by
  intro verdict member
  rcases List.mem_append.mp member with old | new
  · exact raised verdict old
  · rw [List.mem_singleton.mp new]
    rfl

theorem AllRaised.not_ok (raised : AllRaised past) {received : ReceivedMessage} :
    (received, .ok ()) ∉ past := by
  intro member
  cases raised _ member

theorem Tried.leave {before after : Store} {message moved : QueueMessage}
    (left : before.Leaves jobId after) (waits : message.Waits limit moved)
    (tried : Tried limit jobId past message before) : Tried limit jobId past moved after where
  counted := waits.receiveCount.trans tried.counted
  numbered := tried.numbered
  bounded := tried.bounded
  fate := by
    cases tried.fate with
    | waiting raised more undeleted queued unmarked =>
        refine .waiting raised more ?_ ?_ ?_
        · exact fun deleted => undeleted (waits.deleted.mp deleted)
        · intro redriven
          rcases waits.redriven redriven with before | exhausted
          · exact queued before
          · rw [tried.counted] at exhausted
            omega
        · intro row stored
          exact unmarked row (left.job.symm.trans stored)
    | succeeded earlier received last raised gone completed =>
        obtain ⟨row, stored, status⟩ := completed
        refine .succeeded earlier received last raised ?_ ⟨row, left.job.trans stored, status⟩
        rcases gone with deleted | deadLetter
        · exact .inl (waits.deleted.mpr deleted)
        · exact .inr (waits.deadLetter deadLetter)
    | exhausted earlier received error last raised all marked =>
        exact .exhausted earlier received error last raised all (marked.leave left)

theorem rests_of_leaves {before after : Store} (left : before.Leaves jobId after)
    (rests : Rests limit jobId past before) : Rests limit jobId past after :=
  messages_of_leaves left rests fun _ _ waits tried => tried.leave left waits

/-- The terms of retried jobs. -/
def tenancy (limit : Nat) : Tenancy where
  permits := outcomesHandled
  mayCrash := mayCrash
  mayRefuse _ := false
  bears := Bears limit
  rests := Rests limit
  bears_of_leaves {stage before after} left bears := by
    cases stage with
    | submission jobId => exact rests_of_leaves left bears
    | execution received => exact Handled.leave left bears
    | settlement received => exact bears.leave left
  rests_of_leaves := rests_of_leaves

/-! ## The handling of an outcome -/

/-- The attempts before a delivery, which is the next one and still allowed. -/
structure Next (limit : Nat) (past : List Verdict) (received : ReceivedMessage) : Prop where
  raised : AllRaised past
  numbered : past.map (fun verdict => verdict.1.receiveCount) = List.range' 1 past.length
  count : received.receiveCount = past.length + 1
  allowed : received.receiveCount ≤ limit

section

variable {received : ReceivedMessage} {outcome : Except Exn Unit} {store : Store}

theorem Next.tried (next : Next limit past received) {message : QueueMessage}
    (counted : message.receiveCount = received.receiveCount)
    (fate : Fate limit jobId (past ++ [(received, outcome)]) message store) :
    Tried limit jobId (past ++ [(received, outcome)]) message store where
  counted := by
    rw [counted, next.count, List.length_append, List.length_singleton]
  numbered := by
    rw [List.map_append, next.numbered, List.length_append, List.length_singleton,
      List.range'_1_concat, List.map_singleton, next.count, Nat.add_comm]
  bounded := by
    rw [List.length_append, List.length_singleton, ← next.count]
    exact next.allowed
  fate := fate

/-- What a worker leaves with its message. -/
theorem Next.rests (next : Next limit past received) (held : Held limit received store)
    (fate : ∀ message, store.queue.messages[received.receiptHandle.message]? = some message →
      Fate limit received.body.jobId (past ++ [(received, outcome)]) message store) :
    Rests limit received.body.jobId (past ++ [(received, outcome)]) store := by
  intro _ id message about found
  obtain rfl := (held.about id).mp about
  obtain ⟨other, present, counted, -⟩ := held.message
  cases present.symm.trans found
  exact next.tried counted (fate message found)

/-- The last call of a worker. -/
theorem safe_last {op : Op} {history : List Verdict} (settling : op.IsSettling received)
    (leaves : ∀ now reply after supply, Held limit received now → Held limit received after →
      store.Leaves received.body.jobId now → answer op supply now = some (reply, after) →
        Rests limit received.body.jobId history after) :
    (await op).Safe ((tenancy limit).protocol (.settlement received))
      (fun _ now => Rests limit received.body.jobId history now) store := by
  rw [← Program.bind_pure (await op)]
  apply Program.Safe.perform_bind
  rintro now reply after held left ⟨outcome, permitted, called⟩
  have sound : outcome.faulty = false := by simpa [tenancy, outcomesHandled] using permitted
  obtain ⟨supply, answered⟩ := answer_of_exec sound called
  have still : Held limit received after := held.settle settling (written_of_exec called)
  have rests := leaves now reply after supply held still left answered
  refine ⟨still, trivial, ?_, ?_⟩
  · rintro value -
    exact Program.safe_pure.mpr fun later _ further => rests_of_leaves further rests
  · rintro error -
    exact Program.safe_raise.mpr fun later _ further => rests_of_leaves further rests

/-- After a success the message is deleted. -/
theorem safe_delete (next : Next limit past received)
    (completed : ∃ row, store.jobs received.body.jobId = some row ∧ row.status = .completed) :
    (await (.delete received.receiptHandle)).Safe ((tenancy limit).protocol (.settlement received))
      (fun _ now => Rests limit received.body.jobId (past ++ [(received, .ok ())]) now) store := by
  refine safe_last ?_ ?_
  · rfl
  intro now reply after supply held still left answered
  obtain ⟨row, stored, status⟩ := completed
  cases supply <;> simp only [answer, reduceCtorEq] at answered
  cases answered
  apply next.rests still
  intro message found
  exact .succeeded past received rfl next.raised (held.delete _ message found)
    ⟨row, left.job.trans stored, status⟩

/-- After a failure the message is made visible again. -/
theorem safe_release {error : Exn} (next : Next limit past received)
    (handled : Handled limit received store)
    (fate : ∀ message now, message.place ≠ .deleted →
      (message.place = .deadLetter → limit ≤ received.receiveCount) →
      now.jobs received.body.jobId = store.jobs received.body.jobId →
      (now.snapshots received.body.jobId = store.snapshots received.body.jobId ∨
        now.snapshots received.body.jobId = none) →
          Fate limit received.body.jobId (past ++ [(received, .error error)]) message now) :
    (await (.changeVisibility received.receiptHandle 0)).Safe
      ((tenancy limit).protocol (.settlement received))
      (fun _ now => Rests limit received.body.jobId (past ++ [(received, .error error)]) now)
      store := by
  refine safe_last ?_ ?_
  · rfl
  intro now reply after supply held still left answered
  cases supply <;> simp only [answer, reduceCtorEq] at answered
  cases answered
  apply next.rests still
  intro message found
  obtain ⟨other, present, -, deadLetter⟩ := still.message
  cases present.symm.trans found
  exact fate message _ ((handled.leave left).undeleted.changeVisibility _ _ _ message found)
    deadLetter left.job left.snapshot

/-- The last failure is written to row and snapshot. -/
theorem safe_exhausted {error : Exn} (handled : Handled limit received store)
    (present : (store.jobs received.body.jobId).isSome) :
    (markFailed received.body.jobId error).Safe ((tenancy limit).protocol (.settlement received))
      (fun outcome now => Handled limit received now ∧
        outcome.isOk = true ∧ Agreement.Marked received.body.jobId error now) store := by
  refine safe_handled rfl (Agreement.safe_markFailed error present) (sparesQueue_markFailed _ _)
    (fun _ _ => id) ?_ (fun _ => Handled.held) handled
  intro op outcome permitted
  have sound : outcome.faulty = false := by simpa [tenancy, outcomesHandled] using permitted
  simp only [Agreement.custody, soundStores, sound]
  split <;> rfl

/-- An outcome is handled. -/
theorem settles (settings : Settings) (limited : settings.maxQueueAttempts = limit)
    (next : Next limit past received) (handled : Handled limit received store)
    (row : ∃ row, store.jobs received.body.jobId = some row ∧ row.status ≠ .failed ∧
      (outcome.isOk = true → row.status = .completed)) :
    (tenancy limit).Settles settings past received outcome store := by
  refine ⟨handled.held, ?_⟩
  obtain ⟨row, stored, unmarked, completed⟩ := row
  cases outcome with
  | ok value => exact safe_delete next ⟨row, stored, completed rfl⟩
  | error error =>
      by_cases last : settings.maxQueueAttempts ≤ received.receiveCount
      · rw [settle_exhausted last]
        apply (safe_exhausted handled (Option.isSome_iff_exists.mpr ⟨row, stored⟩)).bind
          handled.held
        · rintro value now - ⟨handled, -, marked⟩
          apply safe_release next handled
          intro message final _ _ same expired
          refine .exhausted past received error rfl next.raised ?_ ?_
          · rw [List.length_append, List.length_singleton, ← next.count]
            exact Nat.le_antisymm next.allowed (limited ▸ last)
          · exact marked.keep same expired
        · rintro raised now - ⟨-, impossible, -⟩
          cases impossible
      · rw [settle_retry last]
        rw [limited] at last
        apply safe_release next handled
        intro message now kept deadLetter same _
        refine .waiting next.raised.append ?_ kept (fun moved => last (deadLetter moved)) ?_
        · rw [List.length_append, List.length_singleton, ← next.count]
          exact Nat.lt_of_not_le last
        · intro other present
          cases (same.trans stored).symm.trans present
          exact unmarked

end

/-! ## Deliveries and submissions -/

/-- A message that is handed out has attempts left. -/
theorem next_of_rests {store : Store} {id : Nat} {message : QueueMessage}
    {body : ResearchJobMessage} (rests : Rests limit body.jobId past store)
    (provisioned : store.queue.maxReceiveCount = limit)
    (about : store.queue.jobAt id = some body.jobId)
    (found : store.queue.messages[id]? = some message) (visible : message.place = .visible)
    (below : message.receiveCount < limit) :
    Next limit past (message.delivery id body) ∧
      ∀ row, store.jobs body.jobId = some row → row.status ≠ .failed := by
  have tried := rests provisioned id message about found
  have counted := tried.counted
  cases tried.fate with
  | waiting raised more undeleted queued unmarked =>
      exact ⟨⟨raised, tried.numbered, congrArg (· + 1) counted, below⟩, unmarked⟩
  | succeeded earlier received last raised gone completed =>
      rw [visible] at gone
      rcases gone with impossible | impossible <;> cases impossible
  | exhausted earlier received error last raised all marked => omega

/-- A message that was never delivered. -/
theorem rests_of_queued {store : Store} (some_attempt : 1 ≤ limit) (queued : store.Queued jobId) :
    Rests limit jobId [] store := by
  obtain ⟨⟨row, stored, pending⟩, id, message, only, found, unreceived, visible⟩ := queued
  intro _ other moved about present
  obtain rfl := (only other).mp about
  cases found.symm.trans present
  refine ⟨unreceived, rfl, Nat.zero_le _, .waiting nofun some_attempt ?_ ?_ ?_⟩
  · rw [visible]
    nofun
  · rw [visible]
    nofun
  · intro current there
    cases stored.symm.trans there
    rw [pending]
    nofun

theorem rests_of_unsent {store : Store} (unsent : store.Unsent jobId) :
    Rests limit jobId past store :=
  fun _ id _ about => absurd about (unsent id)

/-- An attempt leaves the message to its worker, and the row unmarked. -/
theorem safe_attempt (env : Environment) {received : ReceivedMessage} {row : ResearchJobRecord}
    {store : Store} (handled : Handled limit received store) (unmarked : row.status ≠ .failed)
    (stored : store.jobs received.body.jobId = some row) :
    (executeResearchPipeline env received.body).Safe
      ((tenancy limit).protocol (.execution received))
      (fun outcome now => Handled limit received now ∧
        ∃ row, now.jobs received.body.jobId = some row ∧ row.status ≠ .failed ∧
          (outcome.isOk = true → row.status = .completed)) store := by
  have attempt : (executeResearchPipeline env received.body).Safe
      ((tenancy limit).protocol (.execution received)) _ store :=
    safe_handled rfl (attempted_executeResearchPipeline env received.body stored)
      ((uses_executeResearchPipeline env received.body).mono fun _ => Op.IsPipeline.sparesQueue)
      (fun _ _ => id) (fun _ _ _ => rfl) (fun _ => id) handled
  apply attempt.weaken
  rintro outcome now - ⟨kept, current, present, status, completed⟩
  refine ⟨kept, current, present, ?_, completed⟩
  rcases status with same | same | same <;> rw [same]
  · exact unmarked
  · nofun
  · nofun

section

-- the programs are used through what was shown of them only
attribute [local irreducible] submitResearchJob executeResearchPipeline settle

/-- Every program keeps the terms. -/
theorem upheld (env : Environment) (some_attempt : 1 ≤ env.settings.maxQueueAttempts) :
    (tenancy env.settings.maxQueueAttempts).Upheld env where
  absent jobId store lacks := rests_of_unsent lacks.unsent
  registered target rawContext jobId store founded := rests_of_unsent founded.unsent
  founds context request := by
    apply Tenancy.founds_submit
    intro target rawContext jobId store founded fetched
    let terms := tenancy env.settings.maxQueueAttempts
    have bare : ∀ store : Store, store.Unsent jobId →
        terms.bears (.submission jobId) store ∧ terms.rests jobId [] store :=
      fun store unsent => ⟨rests_of_unsent unsent, rests_of_unsent unsent⟩
    have queued : ∀ store : Store, store.Queued jobId →
        terms.bears (.submission jobId) store ∧ terms.rests jobId [] store :=
      fun store queued =>
        ⟨rests_of_queued some_attempt queued, rests_of_queued some_attempt queued⟩
    exact ⟨rests_of_unsent founded.unsent,
      safe_announcing bare queued (fun _ _ _ => rfl) request founded⟩
  works history id message body store rests found named only provisioned visible below
    present := by
    have handled := handled_markReceived found named only provisioned
    refine ⟨handled, ?_⟩
    have about : store.queue.jobAt id = some body.jobId := by
      rw [Queue.jobAt_of_found found, named, MessageBody.jobId?]
    obtain ⟨next, unmarked⟩ := next_of_rests rests provisioned about found visible below
    obtain ⟨row, stored⟩ := Option.isSome_iff_exists.mp present
    apply (safe_attempt env handled (unmarked row stored) stored).weaken
    rintro outcome now - ⟨handled, attempted⟩
    exact settles env.settings rfl next handled attempted
  refuses history id message body store _ _ _ _ _ mayRefuse := by
    cases mayRefuse
  crashes stage history store mayCrash bears fresh := by
    cases stage with
    | submission jobId =>
        rw [fresh jobId rfl]
        exact bears
    | execution received => cases mayCrash
    | settlement received => cases mayCrash

end

section

variable {message : QueueMessage} {store : Store}

/-- Nothing comes after a success. -/
theorem Tried.after_success (tried : Tried limit jobId past message store)
    (earlier : List Verdict) (received : ReceivedMessage) (later : List Verdict)
    (returned : past = earlier ++ (received, .ok ()) :: later) :
    later = [] ∧ message.place ≠ .visible ∧
      ∃ row, store.jobs jobId = some row ∧ row.status = .completed := by
  have member : (received, .ok ()) ∈ past := by
    rw [returned]
    exact List.mem_append_right _ (List.mem_cons_self ..)
  cases tried.fate with
  | waiting raised more undeleted queued unmarked => exact absurd member raised.not_ok
  | exhausted before last error same raised all marked =>
      rw [same] at member
      exact absurd member raised.append.not_ok
  | succeeded before last same raised gone completed =>
      refine ⟨?_, ?_, completed⟩
      · rcases List.eq_nil_or_concat later with none | ⟨front, back, more⟩
        · exact none
        · rw [returned, more, List.concat_eq_append, ← List.cons_append,
            ← List.append_assoc] at same
          have within := (List.append_inj' same rfl).1
          exact absurd (within ▸ List.mem_append_right _ (List.mem_cons_self ..)) raised.not_ok
      · rcases gone with place | place <;> rw [place] <;> nofun

/-- The row is marked if and only if all allowed attempts raised. -/
theorem Tried.failed_iff (tried : Tried limit jobId past message store) :
    (∃ row, store.jobs jobId = some row ∧ row.status = .failed) ↔
      past.length = limit ∧ AllRaised past := by
  cases tried.fate with
  | waiting raised more undeleted queued unmarked =>
      constructor
      · rintro ⟨row, stored, failed⟩
        exact absurd failed (unmarked row stored)
      · rintro ⟨all, -⟩
        omega
  | succeeded earlier received last raised gone completed =>
      obtain ⟨row, stored, completed⟩ := completed
      constructor
      · rintro ⟨other, present, failed⟩
        cases stored.symm.trans present
        cases completed.symm.trans failed
      · rintro ⟨-, everything⟩
        rw [last] at everything
        exact absurd (List.mem_append_right _ (List.mem_singleton.mpr rfl)) everything.not_ok
  | exhausted earlier received error last raised all marked =>
      obtain ⟨row, stored, failed, -⟩ := marked.row
      constructor
      · intro _
        refine ⟨all, ?_⟩
        rw [last]
        exact raised.append
      · exact fun _ => ⟨row, stored, failed⟩

/-- Row and snapshot show the error of the last allowed attempt. -/
theorem Tried.marked (tried : Tried limit jobId past message store) (earlier : List Verdict)
    (received : ReceivedMessage) (error : Exn)
    (last : past = earlier ++ [(received, .error error)])
    (all : past.length = limit) : Agreement.Marked jobId error store := by
  cases tried.fate with
  | waiting raised more undeleted queued unmarked => omega
  | succeeded before delivery same raised gone completed =>
      cases (List.append_inj' (last.symm.trans same) rfl).2
  | exhausted before delivery failure same raised all marked =>
      cases (List.append_inj' (last.symm.trans same) rfl).2
      exact marked

end

/-- The handling of the deliveries of a job so far, in order. -/
def verdicts (jobId : JobId) (service : Service) : List Verdict :=
  service.tasks.filterMap fun task =>
    task.verdict.bind fun ended => if ended.1 = jobId then some ended.2 else none

/-- While one task at a time works on a job, its message is known to be sent and
validates when it is received, and every outcome gets handled, the job is
attempted as often as the message was received, at most as often as the settings
allow, and never again after a success.  The row is marked as failed if and only
if all allowed attempts raised, and then row and snapshot show the error of the
last one. -/
theorem retries_bounded (env : Environment) (dlqArn : String)
    (aiCache : String → Option CachedPayload) (actions : List Action) (service : Service)
    (some_attempt : 1 ≤ env.settings.maxQueueAttempts)
    (ran : runWithin (Service.step env)
      ((tenancy env.settings.maxQueueAttempts).allows env) actions
      (Service.initial env.settings dlqArn aiCache) = some service) (jobId : JobId)
    (idle : ∀ task ∈ service.tasks, task.tenant ≠ some jobId) (id : Nat) (message : QueueMessage)
    (about : service.store.queue.jobAt id = some jobId)
    (found : service.store.queue.messages[id]? = some message) :
    let past := verdicts jobId service
    message.receiveCount = past.length ∧ past.length ≤ env.settings.maxQueueAttempts ∧
      (∀ earlier received later, past = earlier ++ (received, .ok ()) :: later →
        later = [] ∧ message.place ≠ .visible ∧
          ∃ row, service.store.jobs jobId = some row ∧ row.status = .completed) ∧
      ((∃ row, service.store.jobs jobId = some row ∧ row.status = .failed) ↔
        past.length = env.settings.maxQueueAttempts ∧ AllRaised past) ∧
      ∀ earlier received error, past = earlier ++ [(received, .error error)] →
        past.length = env.settings.maxQueueAttempts →
        Agreement.Marked jobId error service.store := by
  have kept := (upheld env some_attempt).run ran
  have tried : Tried env.settings.maxQueueAttempts jobId (verdicts jobId service) message
      service.store := kept.leased.rests idle kept.provisioned id message about found
  exact ⟨tried.counted, tried.bounded, tried.after_success, tried.failed_iff, tried.marked⟩

/-- Three attempts, each of which fails to read the snapshot. -/
def failure : List Action :=
  let attempt (task : Nat) : List Action :=
    .deliver 0 :: Sample.calls task [.failed Sample.fault, .done (.flag true)]
  Sample.submission ++ attempt 1 ++ attempt 2 ++ .deliver 0 ::
    Sample.calls 3 [.failed Sample.fault, .done (.flag true), .ok, .ok, .ok,
      .done (.time Sample.noon), .ok, .done (.flag true)]

theorem retries_bounded_failure :
    ∃ service, runWithin (Service.step Sample.environment)
        ((tenancy 3).allows Sample.environment) failure Sample.cold = some service ∧
        (verdicts "job-1" service).length = 3 ∧
      (∃ row, service.store.jobs "job-1" = some row ∧ row.status = .failed) := by
  refine ⟨_, Sample.ran_after (by decide +kernel), by decide +kernel, ?_⟩
  have bounded :=
    retries_bounded Sample.environment "arn:dlq" (fun _ => none) failure _ (by decide)
    (Sample.ran_after (by decide +kernel)) "job-1" (by decide +kernel) 0 _ (by decide +kernel) rfl
  apply bounded.2.2.2.1.mpr
  refine ⟨by decide +kernel, ?_⟩
  unfold AllRaised
  decide +kernel

end Retries

end ResearchTool
