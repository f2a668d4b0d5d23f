import Mathlib.Data.List.Infix
import ResearchTool.Operations

/-!
# Effects of operations

`Written` lists, operation by operation, how a call can change the stores.
Whether the call was carried out, failed or lost its reply, the store it
leaves is one of these; the frame lemmas below are read off this list.
-/

namespace ResearchTool

/-- A call of an operation in `store` may leave the given store behind. -/
inductive Written (store : Store) : Op → Store → Prop where
  | unchanged (op : Op) : Written store op store
  | fetched (target : ParsedRepoTarget) (rawContext : RepositoryRawContext) :
      Written store (.fetchRepositoryContext target)
        { store with fetched := (target, rawContext) :: store.fetched }
  | snapshot (snapshot : ResearchJobStateSnapshot) :
      Written store (.setState snapshot) (store.putSnapshot snapshot)
  | cached (cacheKey : String) (insights : StructuredAIResponse) :
      Written store (.setCachedAiResult cacheKey insights)
        (store.putCached cacheKey (.valid insights))
  | inserted (record : ResearchJobRecord) (absent : store.jobs record.jobId = none) :
      Written store (.insertJob record) (store.putJob record.jobId record)
  | updated (jobId : JobId) (changes : JobChanges) (row : ResearchJobRecord)
      (present : store.jobs jobId = some row) :
      Written store (.updateJob jobId changes) (store.putJob jobId (changes.apply row))
  | reported (record : FinalResearchReportRecord) (absent : store.reports record.jobId = none) :
      Written store (.insertReport record) (store.putReport record.jobId record)
  | revised (jobId : JobId) (changes : ReportChanges) (row : FinalResearchReportRecord)
      (present : store.reports jobId = some row) :
      Written store (.updateReport jobId changes)
        (store.putReport jobId { row with content := changes.apply row.content })
  | sent (message : ResearchJobMessage) :
      Written store (.send message) (store.putQueue (store.queue.enqueue (.job message)))
  | deleted (handle : ReceiptHandle) (honoured : Bool) :
      Written store (.delete handle) (store.putQueue (store.queue.delete handle honoured))
  | revealed (handle : ReceiptHandle) (timeoutSeconds : Nat) (honoured : Bool) :
      Written store (.changeVisibility handle timeoutSeconds)
        (store.putQueue (store.queue.changeVisibility handle timeoutSeconds honoured))

theorem written_of_answer {op : Op} {supply : Supply} {store after : Store}
    {reply : Except Exn op.Reply} (answered : answer op supply store = some (reply, after)) :
    Written store op after := by
  unfold answer at answered
  split at answered <;> try split at answered
  all_goals
    simp only [Option.some.injEq, Prod.mk.injEq, reduceCtorEq] at answered
  all_goals
    obtain ⟨-, rfl⟩ := answered
    constructor
  all_goals assumption

/-- Every call leaves one of the listed stores, whatever its outcome. -/
theorem written_of_exec {op : Op} {outcome : Outcome} {store after : Store}
    {reply : Except Exn op.Reply} (called : exec op outcome store = some (reply, after)) :
    Written store op after := by
  cases outcome with
  | done supply => exact written_of_answer called
  | failed error =>
      simp only [exec] at called
      split at called
      · simp only [Option.some.injEq, Prod.mk.injEq] at called
        exact called.2 ▸ .unchanged op
      · cases called
  | lost supply error =>
      simp only [exec] at called
      split at called
      · simp only [Option.map_eq_some_iff, Prod.mk.injEq] at called
        obtain ⟨⟨answered, written⟩, holds, -, rfl⟩ := called
        exact written_of_answer holds
      · cases called

/-- A call that returns has been carried out. -/
theorem answer_of_exec_ok {op : Op} {outcome : Outcome} {store after : Store} {value : op.Reply}
    (called : exec op outcome store = some (.ok value, after)) :
    ∃ supply, outcome = .done supply ∧ answer op supply store = some (.ok value, after) := by
  cases outcome with
  | done supply => exact ⟨supply, rfl, called⟩
  | failed error =>
      simp only [exec] at called
      split at called <;> simp at called
  | lost supply error =>
      simp only [exec] at called
      split at called <;> simp at called

/-- A call that raises was answered so, or is at fault itself. -/
theorem exec_error {op : Op} {outcome : Outcome} {store after : Store} {error : Exn}
    (called : exec op outcome store = some (.error error, after)) :
    (∃ supply, outcome = .done supply ∧ answer op supply store = some (.error error, after)) ∨
      (outcome.faulty = true ∧ op.party.mayRaise error = true) := by
  cases outcome with
  | done supply => exact .inl ⟨supply, rfl, called⟩
  | failed raised =>
      simp only [exec] at called
      split at called
      · rename_i allowed
        cases called
        exact .inr ⟨rfl, allowed⟩
      · cases called
  | lost supply raised =>
      simp only [exec] at called
      split at called
      · rename_i allowed
        obtain ⟨result, -, same⟩ := Option.map_eq_some_iff.mp called
        cases same
        exact .inr ⟨rfl, allowed⟩
      · cases called

/-- A call that is not at fault is answered by the stores. -/
theorem answer_of_exec {op : Op} {outcome : Outcome} {store after : Store}
    {reply : Except Exn op.Reply} (sound : outcome.faulty = false)
    (called : exec op outcome store = some (reply, after)) :
    ∃ supply, answer op supply store = some (reply, after) := by
  cases outcome with
  | done supply => exact ⟨supply, called⟩
  | failed error => cases sound
  | lost supply error => cases sound

/-- A call that fails without effect leaves the stores as they are. -/
theorem eq_of_not_takesEffect {op : Op} {outcome : Outcome} {store after : Store}
    {reply : Except Exn op.Reply} (called : exec op outcome store = some (reply, after))
    (idle : outcome.takesEffect = false) : after = store := by
  cases outcome with
  | failed error =>
      simp only [exec, Option.ite_none_right_eq_some] at called
      cases called.2
      rfl
  | done supply => cases idle
  | lost supply error => cases idle

/-! ## Calls that are answered -/

theorem answer_selectJob {jobId : JobId} {supply : Supply} {store after : Store}
    {reply : Except Exn (Selected ResearchJobRecord)}
    (answered : answer (.selectJob jobId) supply store = some (reply, after)) :
    ∃ alive, reply = .ok ⟨store.jobs jobId, alive⟩ ∧ after = store := by
  cases supply <;> simp only [answer, reduceCtorEq] at answered
  cases answered
  exact ⟨_, rfl, rfl⟩

theorem answer_insertJob {record : ResearchJobRecord} {supply : Supply} {store after : Store}
    {reply : Except Exn Unit}
    (answered : answer (.insertJob record) supply store = some (reply, after)) :
    (reply = .ok () ∧ store.jobs record.jobId = none ∧
        after = store.putJob record.jobId record) ∨
      (reply = .error integrityError ∧ after = store) := by
  cases supply <;> simp only [answer, reduceCtorEq] at answered
  split at answered
  · rename_i absent
    cases answered
    exact .inl ⟨rfl, absent, rfl⟩
  · cases answered
    exact .inr ⟨rfl, rfl⟩

theorem answer_updateJob {jobId : JobId} {changes : JobChanges} {row : ResearchJobRecord}
    {supply : Supply} {store after : Store} {reply : Except Exn Unit}
    (present : store.jobs jobId = some row)
    (answered : answer (.updateJob jobId changes) supply store = some (reply, after)) :
    reply = .ok () ∧ after = store.putJob jobId (changes.apply row) := by
  cases supply <;> simp only [answer, present, reduceCtorEq] at answered
  cases answered
  exact ⟨rfl, rfl⟩

theorem answer_refreshJob {jobId : JobId} {row : ResearchJobRecord} {supply : Supply}
    {store after : Store} {reply : Except Exn ResearchJobRecord}
    (present : store.jobs jobId = some row)
    (answered : answer (.refreshJob jobId) supply store = some (reply, after)) :
    reply = .ok row ∧ after = store := by
  cases supply <;> simp only [answer, present, reduceCtorEq] at answered
  cases answered
  exact ⟨rfl, rfl⟩

theorem answer_selectReport {jobId : JobId} {supply : Supply} {store after : Store}
    {reply : Except Exn (Selected FinalResearchReportRecord)}
    (answered : answer (.selectReport jobId) supply store = some (reply, after)) :
    ∃ alive, reply = .ok ⟨store.reports jobId, alive⟩ ∧ after = store := by
  cases supply <;> simp only [answer, reduceCtorEq] at answered
  cases answered
  exact ⟨_, rfl, rfl⟩

theorem answer_insertReport {record : FinalResearchReportRecord} {supply : Supply}
    {store after : Store} {reply : Except Exn Unit} (absent : store.reports record.jobId = none)
    (answered : answer (.insertReport record) supply store = some (reply, after)) :
    reply = .ok () ∧ after = store.putReport record.jobId record := by
  cases supply <;> simp only [answer, absent, reduceCtorEq] at answered
  cases answered
  exact ⟨rfl, rfl⟩

theorem answer_updateReport {jobId : JobId} {changes : ReportChanges}
    {row : FinalResearchReportRecord} {supply : Supply} {store after : Store}
    {reply : Except Exn Unit} (present : store.reports jobId = some row)
    (answered : answer (.updateReport jobId changes) supply store = some (reply, after)) :
    reply = .ok () ∧
      after = store.putReport jobId { row with content := changes.apply row.content } := by
  cases supply <;> simp only [answer, present, reduceCtorEq] at answered
  cases answered
  exact ⟨rfl, rfl⟩

theorem answer_refreshReport {jobId : JobId} {row : FinalResearchReportRecord} {supply : Supply}
    {store after : Store} {reply : Except Exn FinalResearchReportRecord}
    (present : store.reports jobId = some row)
    (answered : answer (.refreshReport jobId) supply store = some (reply, after)) :
    reply = .ok row ∧ after = store := by
  cases supply <;> simp only [answer, present, reduceCtorEq] at answered
  cases answered
  exact ⟨rfl, rfl⟩

theorem answer_fetchRepositoryContext {target : ParsedRepoTarget} {supply : Supply}
    {store after : Store} {reply : Except Exn RepositoryRawContext}
    (answered : answer (.fetchRepositoryContext target) supply store = some (reply, after)) :
    ∃ rawContext, reply = .ok rawContext ∧
      after = { store with fetched := (target, rawContext) :: store.fetched } := by
  cases supply <;> simp only [answer, reduceCtorEq] at answered
  cases answered
  exact ⟨_, rfl, rfl⟩

theorem answer_setState {snapshot : ResearchJobStateSnapshot} {supply : Supply}
    {store after : Store} {reply : Except Exn Unit}
    (answered : answer (.setState snapshot) supply store = some (reply, after)) :
    reply = .ok () ∧ after = store.putSnapshot snapshot := by
  cases supply <;> simp only [answer, reduceCtorEq] at answered
  cases answered
  exact ⟨rfl, rfl⟩

theorem answer_setCachedAiResult {cacheKey : String} {insights : StructuredAIResponse}
    {supply : Supply} {store after : Store} {reply : Except Exn Unit}
    (answered : answer (.setCachedAiResult cacheKey insights) supply store = some (reply, after)) :
    reply = .ok () ∧ after = store.putCached cacheKey (.valid insights) := by
  cases supply <;> simp only [answer, reduceCtorEq] at answered
  cases answered
  exact ⟨rfl, rfl⟩

theorem answer_getState {jobId : JobId} {supply : Supply} {store after : Store}
    {reply : Except Exn (Option ResearchJobStateSnapshot)}
    (answered : answer (.getState jobId) supply store = some (reply, after)) :
    reply = .ok (store.snapshots jobId) ∧ after = store := by
  cases supply <;> simp only [answer, reduceCtorEq] at answered
  cases answered
  exact ⟨rfl, rfl⟩

theorem answer_send {message : ResearchJobMessage} {supply : Supply} {store after : Store}
    {reply : Except Exn Unit}
    (answered : answer (.send message) supply store = some (reply, after)) :
    after = store.putQueue (store.queue.enqueue (.job message)) := by
  cases supply <;> simp only [answer, reduceCtorEq] at answered
  cases answered
  rfl

theorem answer_closeSession {supply : Supply} {store after : Store} {reply : Except Exn Unit}
    (answered : answer .closeSession supply store = some (reply, after)) :
    reply = .ok () ∧ after = store := by
  cases supply <;> simp only [answer, reduceCtorEq] at answered
  cases answered
  exact ⟨rfl, rfl⟩

/-! ## Calls that return -/

/-- The clock is always read. -/
theorem exec_now {outcome : Outcome} {store after : Store} {reply : Except Exn DateTime}
    (called : exec .now outcome store = some (reply, after)) :
    ∃ time, reply = .ok time ∧ after = store := by
  cases outcome with
  | done supply => exact answer_now called
  | failed error => simp [exec, Op.party, Party.mayRaise] at called
  | lost supply error => simp [exec, Op.party, Party.mayRaise] at called

theorem getState_ok {jobId : JobId} {outcome : Outcome} {store after : Store}
    {snapshot : Option ResearchJobStateSnapshot}
    (called : exec (.getState jobId) outcome store = some (.ok snapshot, after)) :
    snapshot = store.snapshots jobId ∧ after = store := by
  obtain ⟨supply, -, answered⟩ := answer_of_exec_ok called
  obtain ⟨replied, rfl⟩ := answer_getState answered
  cases replied
  exact ⟨rfl, rfl⟩

theorem setState_ok {snapshot : ResearchJobStateSnapshot} {outcome : Outcome}
    {store after : Store} {reply : Op.Reply (.setState snapshot)}
    (called : exec (.setState snapshot) outcome store = some (.ok reply, after)) :
    after = store.putSnapshot snapshot := by
  obtain ⟨supply, -, answered⟩ := answer_of_exec_ok called
  exact (answer_setState answered).2

theorem selectJob_ok {jobId : JobId} {outcome : Outcome} {store after : Store}
    {selected : Selected ResearchJobRecord}
    (called : exec (.selectJob jobId) outcome store = some (.ok selected, after)) :
    selected.row = store.jobs jobId ∧ after = store := by
  obtain ⟨supply, -, answered⟩ := answer_of_exec_ok called
  obtain ⟨alive, replied, rfl⟩ := answer_selectJob answered
  cases replied
  exact ⟨rfl, rfl⟩

theorem selectReport_ok {jobId : JobId} {outcome : Outcome} {store after : Store}
    {selected : Selected FinalResearchReportRecord}
    (called : exec (.selectReport jobId) outcome store = some (.ok selected, after)) :
    selected.row = store.reports jobId ∧ after = store := by
  obtain ⟨supply, -, answered⟩ := answer_of_exec_ok called
  obtain ⟨alive, replied, rfl⟩ := answer_selectReport answered
  cases replied
  exact ⟨rfl, rfl⟩

theorem insertJob_ok {record : ResearchJobRecord} {outcome : Outcome} {store after : Store}
    {reply : Op.Reply (.insertJob record)}
    (called : exec (.insertJob record) outcome store = some (.ok reply, after)) :
    store.jobs record.jobId = none ∧ after = store.putJob record.jobId record := by
  obtain ⟨supply, -, answered⟩ := answer_of_exec_ok called
  cases supply <;> simp only [answer, reduceCtorEq] at answered
  split at answered
  · rename_i absent
    cases answered
    exact ⟨absent, rfl⟩
  · cases answered

theorem refreshJob_ok {jobId : JobId} {outcome : Outcome} {store after : Store}
    {row : ResearchJobRecord}
    (called : exec (.refreshJob jobId) outcome store = some (.ok row, after)) :
    store.jobs jobId = some row ∧ after = store := by
  obtain ⟨supply, -, answered⟩ := answer_of_exec_ok called
  cases supply <;> simp only [answer, reduceCtorEq] at answered
  split at answered
  · rename_i row present
    cases answered
    exact ⟨present, rfl⟩
  · cases answered

theorem insertReport_ok {record : FinalResearchReportRecord} {outcome : Outcome}
    {store after : Store} {reply : Op.Reply (.insertReport record)}
    (called : exec (.insertReport record) outcome store = some (.ok reply, after)) :
    store.reports record.jobId = none ∧ after = store.putReport record.jobId record := by
  obtain ⟨supply, -, answered⟩ := answer_of_exec_ok called
  cases supply <;> simp only [answer, reduceCtorEq] at answered
  split at answered
  · rename_i absent
    cases answered
    exact ⟨absent, rfl⟩
  · cases answered

theorem updateReport_ok {jobId : JobId} {changes : ReportChanges} {outcome : Outcome}
    {store after : Store} {reply : Op.Reply (.updateReport jobId changes)}
    (called : exec (.updateReport jobId changes) outcome store = some (.ok reply, after)) :
    ∃ row, store.reports jobId = some row ∧
      after = store.putReport jobId { row with content := changes.apply row.content } := by
  obtain ⟨supply, -, answered⟩ := answer_of_exec_ok called
  cases supply <;> simp only [answer, reduceCtorEq] at answered
  split at answered
  · rename_i row present
    cases answered
    exact ⟨row, present, rfl⟩
  · cases answered

/-! ## What only grows -/

/-- Rows, reports, message bodies and fetched contexts are never taken away. -/
structure Store.Grows (before after : Store) : Prop where
  jobs : ∀ jobId, (before.jobs jobId).isSome → (after.jobs jobId).isSome
  reports : ∀ jobId, (before.reports jobId).isSome → (after.reports jobId).isSome
  bodies : before.queue.bodies <+: after.queue.bodies
  attributes : after.queue.attributes = before.queue.attributes
  fetched : before.fetched <:+ after.fetched

namespace Store.Grows

theorem refl (store : Store) : store.Grows store where
  jobs _ present := present
  reports _ present := present
  bodies := List.prefix_refl _
  attributes := rfl
  fetched := List.suffix_refl _

theorem trans {first second third : Store} (earlier : first.Grows second)
    (later : second.Grows third) : first.Grows third where
  jobs jobId present := later.jobs jobId (earlier.jobs jobId present)
  reports jobId present := later.reports jobId (earlier.reports jobId present)
  bodies := earlier.bodies.trans later.bodies
  attributes := later.attributes.trans earlier.attributes
  fetched := earlier.fetched.trans later.fetched

theorem jobAt {before after : Store} (grows : before.Grows after) {id : Nat} {jobId : JobId}
    (sent : before.queue.jobAt id = some jobId) : after.queue.jobAt id = some jobId := by
  simp only [Queue.jobAt, Option.bind_eq_some_iff] at sent ⊢
  obtain ⟨body, found, named⟩ := sent
  obtain ⟨within, rfl⟩ := List.getElem?_eq_some_iff.mp found
  exact ⟨_, List.prefix_iff_getElem?.mp grows.bodies id within, named⟩

/-- A message keeps its body. -/
theorem body {before after : Store} (grows : before.Grows after) {id : Nat}
    {message moved : QueueMessage} (found : before.queue.messages[id]? = some message)
    (present : after.queue.messages[id]? = some moved) : moved.body = message.body := by
  have there : before.queue.bodies[id]? = some message.body := by
    rw [Queue.bodies, List.getElem?_map, found, Option.map_some]
  have still : after.queue.bodies[id]? = some moved.body := by
    rw [Queue.bodies, List.getElem?_map, present, Option.map_some]
  obtain ⟨within, same⟩ := List.getElem?_eq_some_iff.mp there
  have kept := List.prefix_iff_getElem?.mp grows.bodies id within
  rw [still, same] at kept
  exact Option.some.inj kept

/-- A move of one message. -/
theorem of_moves {store : Store} {queue : Queue} {id : Nat} (moves : store.queue.Moves id queue) :
    store.Grows (store.putQueue queue) where
  jobs _ present := present
  reports _ present := present
  bodies := by rw [Store.putQueue, moves.bodies]
  attributes := moves.attributes
  fetched := List.suffix_refl _

end Store.Grows

theorem isSome_update {ρ : Type} (map : JobId → Option ρ) (key jobId : JobId) (value : ρ)
    (present : (map jobId).isSome) : (Function.update map key (some value) jobId).isSome := by
  by_cases same : jobId = key
  · simp [same]
  · rwa [Function.update_of_ne same]

/-- A lookup after an update finds the new value or an old one. -/
theorem update_eq_some {ρ : Type} {map : JobId → Option ρ} {key jobId : JobId} {value : Option ρ}
    {found : ρ} (lookup : Function.update map key value jobId = some found) :
    (jobId = key ∧ value = some found) ∨ (jobId ≠ key ∧ map jobId = some found) := by
  by_cases same : jobId = key
  · subst same
    rw [Function.update_self] at lookup
    exact .inl ⟨rfl, lookup⟩
  · rw [Function.update_of_ne same] at lookup
    exact .inr ⟨same, lookup⟩

theorem Written.grows {op : Op} {store after : Store} (written : Written store op after) :
    store.Grows after := by
  cases written with
  | unchanged => exact .refl store
  | fetched target rawContext =>
      exact { Store.Grows.refl store with fetched := List.suffix_cons _ _ }
  | snapshot snapshot => exact { Store.Grows.refl store with }
  | cached cacheKey insights => exact { Store.Grows.refl store with }
  | inserted record absent =>
      exact { Store.Grows.refl store with jobs := fun jobId => isSome_update _ _ jobId _ }
  | updated jobId changes row present =>
      exact { Store.Grows.refl store with jobs := fun jobId => isSome_update _ _ jobId _ }
  | reported record absent =>
      exact { Store.Grows.refl store with reports := fun jobId => isSome_update _ _ jobId _ }
  | revised jobId changes row present =>
      exact { Store.Grows.refl store with reports := fun jobId => isSome_update _ _ jobId _ }
  | sent message =>
      exact { Store.Grows.refl store with
        bodies := by
          rw [Store.putQueue, Queue.bodies_enqueue]
          exact List.prefix_append _ _ }
  | deleted handle honoured => exact .of_moves (Queue.moves_delete _ _ _)
  | revealed handle timeoutSeconds honoured =>
      exact .of_moves (Queue.moves_changeVisibility _ _ _ _)

/-- The operation changes neither job rows nor the queue. -/
def Op.SparesRows : Op → Prop
  | .insertJob _ => False
  | .updateJob _ _ => False
  | .send _ => False
  | .delete _ => False
  | .changeVisibility _ _ => False
  | _ => True

theorem Written.sparesRows {op : Op} {store after : Store} (written : Written store op after)
    (spares : op.SparesRows) : after.jobs = store.jobs ∧ after.queue = store.queue := by
  cases written with
  | inserted | updated | sent | deleted | revealed => cases spares
  | _ => exact ⟨rfl, rfl⟩

/-- The operation writes no report. -/
def Op.SparesReports : Op → Prop
  | .insertReport _ => False
  | .updateReport _ _ => False
  | _ => True

theorem Written.sparesReports {op : Op} {store after : Store} (written : Written store op after)
    (spares : op.SparesReports) : after.reports = store.reports := by
  cases written with
  | reported | revised => cases spares
  | _ => rfl

/-! ## Which job an operation is about -/

/-- The operation may change what the stores hold about a job. -/
def Op.Affects (store : Store) (jobId : JobId) : Op → Prop
  | .insertJob record => record.jobId = jobId
  | .updateJob id _ => id = jobId
  | .setState snapshot => snapshot.jobId = jobId
  | .insertReport record => record.jobId = jobId
  | .updateReport id _ => id = jobId
  | .send message => message.jobId = jobId
  | .delete handle => store.queue.jobAt handle.message = some jobId
  | .changeVisibility handle _ => store.queue.jobAt handle.message = some jobId
  | _ => False

/-- Row, report, snapshot and messages of a job are the same before and
after. -/
structure Store.Spares (jobId : JobId) (before after : Store) : Prop where
  job : after.jobs jobId = before.jobs jobId
  report : after.reports jobId = before.reports jobId
  snapshot : after.snapshots jobId = before.snapshots jobId
  sent : ∀ id, after.queue.jobAt id = some jobId ↔ before.queue.jobAt id = some jobId
  messages : ∀ id, before.queue.jobAt id = some jobId →
    after.queue.messages[id]? = before.queue.messages[id]?

namespace Store.Spares

theorem refl (jobId : JobId) (store : Store) : store.Spares jobId store :=
  ⟨rfl, rfl, rfl, fun _ => Iff.rfl, fun _ _ => rfl⟩

/-- A move of a message that is not about the job. -/
theorem of_moves {jobId : JobId} {store : Store} {queue : Queue} {id : Nat}
    (moves : store.queue.Moves id queue) (foreign : store.queue.jobAt id ≠ some jobId) :
    store.Spares jobId (store.putQueue queue) :=
  { refl jobId store with
    sent := fun other => by rw [Store.putQueue, moves.jobAt]
    messages := fun other about => moves.others other fun same => foreign (same ▸ about) }

end Store.Spares

theorem jobAt_enqueue (queue : Queue) (body : MessageBody) (id : Nat) :
    (queue.enqueue body).jobAt id =
      if id = queue.messages.length then body.jobId? else queue.jobAt id := by
  have counted : queue.bodies.length = queue.messages.length := List.length_map _
  rw [Queue.jobAt, Queue.jobAt, Queue.bodies_enqueue, List.getElem?_append]
  rcases Nat.lt_trichotomy id queue.messages.length with below | rfl | above
  · rw [if_pos (by omega), if_neg (by omega)]
  · simp [counted]
  · rw [if_neg (by omega), if_neg (by omega), List.getElem?_eq_none (by simp; omega),
      List.getElem?_eq_none (by omega)]

theorem jobAt_eq_none_of_length_le {queue : Queue} {id : Nat}
    (beyond : queue.messages.length ≤ id) : queue.jobAt id = none := by
  rw [Queue.jobAt, List.getElem?_eq_none (by simpa [Queue.bodies] using beyond)]
  rfl

theorem Written.spares {op : Op} {store after : Store} {jobId : JobId}
    (written : Written store op after) (foreign : ¬ op.Affects store jobId) :
    store.Spares jobId after := by
  cases written with
  | unchanged => exact .refl jobId store
  | fetched target rawContext => exact { Store.Spares.refl jobId store with }
  | cached cacheKey insights => exact { Store.Spares.refl jobId store with }
  | snapshot snapshot =>
      exact { Store.Spares.refl jobId store with
        snapshot := Function.update_of_ne (Ne.symm foreign) _ _ }
  | inserted record absent =>
      exact { Store.Spares.refl jobId store with
        job := Function.update_of_ne (Ne.symm foreign) _ _ }
  | updated id changes row present =>
      exact { Store.Spares.refl jobId store with
        job := Function.update_of_ne (Ne.symm foreign) _ _ }
  | reported record absent =>
      exact { Store.Spares.refl jobId store with
        report := Function.update_of_ne (Ne.symm foreign) _ _ }
  | revised id changes row present =>
      exact { Store.Spares.refl jobId store with
        report := Function.update_of_ne (Ne.symm foreign) _ _ }
  | sent message =>
      have other : message.jobId ≠ jobId := foreign
      refine { Store.Spares.refl jobId store with sent := fun id => ?_, messages := ?_ }
      · rw [Store.putQueue, jobAt_enqueue]
        split
        · rename_i last
          simp [MessageBody.jobId?, other, jobAt_eq_none_of_length_le (Nat.le_of_eq last.symm)]
        · rfl
      · intro id about
        have within : id < store.queue.messages.length := by
          by_contra beyond
          simp [jobAt_eq_none_of_length_le (Nat.le_of_not_lt beyond)] at about
        exact List.getElem?_append_left within
  | deleted handle honoured => exact .of_moves (Queue.moves_delete _ _ _) foreign
  | revealed handle timeoutSeconds honoured =>
      exact .of_moves (Queue.moves_changeVisibility _ _ _ _) foreign

end ResearchTool
