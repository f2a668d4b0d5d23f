import ResearchTool.Custody
import ResearchTool.Service

/-!
# What stops a worker

The `try` statement of the loop surrounds the pipeline only.  A body that does
not validate raises while the batch is decoded, and a call made for the
outcome of a pipeline raises inside the `except` or the `else` clause; either
exception leaves the loop.  Everything else is contained.
-/

namespace ResearchTool

open Process

/-- Any call may end in any way, and the stores may be anything when it is
made. -/
def anyCalls : Effect Ops Exn Store :=
  fun op _ reply after => ∃ outcome now, exec op outcome now = some (reply, after)

theorem anyCalls_of_callsWithin {permits : Op → Outcome → Bool} (op : Op) (before : Store)
    (reply : Except Exn op.Reply) (after : Store)
    (called : callsWithin permits op before reply after) : anyCalls op before reply after := by
  obtain ⟨outcome, -, replied⟩ := called
  exact ⟨outcome, before, replied⟩

/-- One message that a worker has taken up: the calls and the outcome of its
pipeline, and the calls made for that outcome. -/
structure Dispatch where
  received : ReceivedMessage
  pipeline : List (Event Ops Exn)
  outcome : Except Exn Unit
  handling : List (Event Ops Exn)

def Dispatch.trace (dispatch : Dispatch) : List (Event Ops Exn) :=
  dispatch.pipeline ++ dispatch.handling

/-- The `for` loop over a batch, message by message. -/
inductive BatchRuns (env : Environment) :
    List ReceivedMessage → Store → List Dispatch → Except Exn Unit → Store → Prop where
  | nil (store : Store) : BatchRuns env [] store [] (.ok ()) store
  | handled {received : ReceivedMessage} {rest : List ReceivedMessage}
      {store middle next final : Store} {pipeline handling : List (Event Ops Exn)}
      {outcome result : Except Exn Unit} {log : List Dispatch}
      (ran : (executeResearchPipeline env received.body).Runs anyCalls store pipeline
        outcome middle)
      (settled : (settle env.settings received outcome).Runs anyCalls middle handling
        (.ok ()) next)
      (later : BatchRuns env rest next log result final) :
      BatchRuns env (received :: rest) store (⟨received, pipeline, outcome, handling⟩ :: log)
        result final
  | stopped {received : ReceivedMessage} {rest : List ReceivedMessage}
      {store middle final : Store} {pipeline handling : List (Event Ops Exn)}
      {outcome : Except Exn Unit} {error : Exn}
      (ran : (executeResearchPipeline env received.body).Runs anyCalls store pipeline
        outcome middle)
      (settled : (settle env.settings received outcome).Runs anyCalls middle handling
        (.error error) final) :
      BatchRuns env (received :: rest) store [⟨received, pipeline, outcome, handling⟩]
        (.error error) final

/-- The `while` loop, batch by batch. -/
inductive LoopRuns (env : Environment) :
    List (List ReceivedItem) → Store → List Dispatch → Except Exn Unit → Store → Prop where
  | nil (store : Store) : LoopRuns env [] store [] (.ok ()) store
  | rejected {items : List ReceivedItem} {later : List (List ReceivedItem)} {error : Exn}
      (store : Store) (invalid : decodeBatch items = .error error) :
      LoopRuns env (items :: later) store [] (.error error) store
  | proceeded {items : List ReceivedItem} {later : List (List ReceivedItem)}
      {batch : List ReceivedMessage} {store middle final : Store} {log further : List Dispatch}
      {result : Except Exn Unit} (decoded : decodeBatch items = .ok batch)
      (ran : BatchRuns env batch store log (.ok ()) middle)
      (rest : LoopRuns env later middle further result final) :
      LoopRuns env (items :: later) store (log ++ further) result final
  | stopped {items : List ReceivedItem} {later : List (List ReceivedItem)}
      {batch : List ReceivedMessage} {store final : Store} {log : List Dispatch} {error : Exn}
      (decoded : decodeBatch items = .ok batch)
      (ran : BatchRuns env batch store log (.error error) final) :
      LoopRuns env (items :: later) store log (.error error) final

/-! ## The relations are the runs of the code -/

theorem runs_handleReceived_iff {env : Environment} {received : ReceivedMessage}
    {store final : Store}
    {trace : List (Event Ops Exn)} {result : Except Exn Unit} :
    (handleReceived env received).Runs anyCalls store trace result final ↔
      ∃ pipeline outcome handling middle,
        (executeResearchPipeline env received.body).Runs anyCalls store pipeline outcome middle ∧
        (settle env.settings received outcome).Runs anyCalls middle handling result final ∧
        trace = pipeline ++ handling := by
  rw [handleReceived, Program.bind_eq, Program.runs_bind_iff]
  simp only [Program.runs_attempt_iff]
  constructor
  · rintro (⟨pipeline, value, middle, handling, ⟨outcome, ran, same⟩, settled, rfl⟩ |
      ⟨error, ⟨outcome, -, same⟩, -⟩)
    · cases same
      exact ⟨pipeline, value, handling, middle, ran, settled, rfl⟩
    · cases same
  · rintro ⟨pipeline, outcome, handling, middle, ran, settled, rfl⟩
    exact .inl ⟨pipeline, outcome, middle, handling, ⟨outcome, ran, rfl⟩, settled, rfl⟩

theorem runs_handleBatch_iff {env : Environment} {batch : List ReceivedMessage}
    {store final : Store} {trace : List (Event Ops Exn)} {result : Except Exn Unit} :
    (handleBatch env batch).Runs anyCalls store trace result final ↔
      ∃ log, BatchRuns env batch store log result final ∧ trace = log.flatMap Dispatch.trace := by
  induction batch generalizing store trace with
  | nil =>
      constructor
      · intro runs
        cases runs
        exact ⟨[], .nil _, rfl⟩
      · rintro ⟨log, runs, rfl⟩
        cases runs
        exact .pure () _
  | cons received rest ih =>
      rw [handleBatch, Program.bind_eq, Program.runs_bind_iff]
      simp only [runs_handleReceived_iff]
      constructor
      · rintro (⟨first, value, next, second,
          ⟨pipeline, outcome, handling, middle, ran, settled, rfl⟩, later, rfl⟩ |
            ⟨error, ⟨pipeline, outcome, handling, middle, ran, settled, rfl⟩, rfl⟩)
        · obtain ⟨log, batched, rfl⟩ := ih.mp later
          exact ⟨_, .handled ran settled batched, rfl⟩
        · exact ⟨_, .stopped ran settled, by simp [Dispatch.trace]⟩
      · rintro ⟨log, runs, rfl⟩
        cases runs with
        | handled ran settled later =>
            exact .inl ⟨_, (), _, _, ⟨_, _, _, _, ran, settled, rfl⟩, ih.mpr ⟨_, later, rfl⟩, rfl⟩
        | stopped ran settled =>
            exact .inr ⟨_, ⟨_, _, _, _, ran, settled, by simp [Dispatch.trace]⟩, rfl⟩

/-- The runs of the worker's loop, dispatch by dispatch. -/
theorem runs_workerLoop_iff {env : Environment} {batches : List (List ReceivedItem)}
    {store final : Store} {trace : List (Event Ops Exn)} {result : Except Exn Unit} :
    (workerLoop env batches).Runs anyCalls store trace result final ↔
      ∃ log, LoopRuns env batches store log result final ∧
        trace = log.flatMap Dispatch.trace := by
  induction batches generalizing store trace with
  | nil =>
      constructor
      · intro runs
        cases runs
        exact ⟨[], .nil _, rfl⟩
      · rintro ⟨log, runs, rfl⟩
        cases runs
        exact .pure () _
  | cons items later ih =>
      rw [workerLoop, workerRound, Program.bind_eq]
      cases decoded : decodeBatch items with
      | error error =>
          constructor
          · intro runs
            cases runs
            exact ⟨[], .rejected _ decoded, rfl⟩
          · rintro ⟨log, runs, rfl⟩
            cases runs with
            | rejected store invalid =>
                rw [decoded] at invalid
                cases invalid
                exact .raise _ _
            | proceeded valid => rw [decoded] at valid; cases valid
            | stopped valid => rw [decoded] at valid; cases valid
      | ok batch =>
          change ((handleBatch env batch).bind fun _ => workerLoop env later).Runs anyCalls store
            trace result final ↔ _
          rw [Program.runs_bind_iff]
          simp only [runs_handleBatch_iff, ih]
          constructor
          · rintro (⟨first, value, middle, second, ⟨log, ran, rfl⟩, ⟨further, rest, rfl⟩, rfl⟩ |
              ⟨error, ⟨log, ran, rfl⟩, rfl⟩)
            · exact ⟨_, .proceeded decoded ran rest, by simp⟩
            · exact ⟨log, .stopped decoded ran, rfl⟩
          · rintro ⟨log, runs, rfl⟩
            cases runs with
            | rejected store invalid => rw [decoded] at invalid; cases invalid
            | proceeded valid ran rest =>
                rw [decoded] at valid
                cases valid
                exact .inl ⟨_, (), _, _, ⟨_, ran, rfl⟩, ⟨_, rest, rfl⟩, by simp⟩
            | stopped valid ran =>
                rw [decoded] at valid
                cases valid
                exact .inr ⟨_, ⟨_, ran, rfl⟩, rfl⟩

/-! ## What leaves the loop -/

/-- A session closes after its body and passes the exception on. -/
theorem propagates_withSession {α : Type} {body : Session → Coroutine α}
    {effect : Effect Ops Exn Store} (propagates : (body .empty).Propagates effect) :
    (withSession body).Propagates effect := by
  rw [withSession_eq]
  intro state
  apply Program.always_bind.mpr
  apply Program.always_attempt.mpr
  apply (propagates state).mono
  intro trace outcome middle ended
  cases outcome with
  | ok value =>
      apply ((Program.Propagates.perform (S := Ops) Op.closeSession).bind
        (fun _ => Program.Propagates.pure value) middle).mono
      intro later result final further
      have quiet : trace.any Event.raised = false := by
        simpa [Except.isOk, Except.toBool] using ended.symm
      rw [List.any_append, quiet, Bool.false_or]
      exact further
  | error error =>
      have loud : trace.any Event.raised = true := by
        simpa [Except.isOk, Except.toBool] using ended.symm
      apply Program.always_perform_bind
      · intro value closed _
        apply Program.always_raise.mpr
        simp [loud, Except.isOk, Except.toBool]
      · intro raised closed _
        simp [loud, Except.isOk, Except.toBool]

theorem propagates_updateJobStatus (session : Session) (jobId : JobId) (changes : JobChanges)
    {effect : Effect Ops Exn Store} :
    (updateJobStatus session jobId changes).Propagates effect := by
  rw [updateJobStatus_eq]
  apply (Program.Propagates.perform _).bind
  intro selected
  cases identify (session.jobs jobId) selected with
  | none => exact .pure session
  | some loaded =>
      apply (Program.Propagates.perform _).bind
      intro _
      apply (Program.Propagates.perform _).bind
      intro refreshed
      exact .pure _

/-- The handling of an outcome returns if and only if none of its calls
raises. -/
theorem propagates_settle (settings : Settings) (received : ReceivedMessage)
    (outcome : Except Exn Unit) {effect : Effect Ops Exn Store} :
    (settle settings received outcome).Propagates effect := by
  cases outcome with
  | ok value => exact .perform _
  | error error =>
      by_cases last : settings.maxQueueAttempts ≤ received.receiveCount
      · rw [settle_exhausted last]
        apply Program.Propagates.bind
        · apply (propagates_withSession (propagates_updateJobStatus _ _ _)).bind
          intro _
          apply (Program.Propagates.perform (S := Ops) Op.now).bind
          intro now
          exact .perform _
        · intro _
          exact .perform _
      · rw [settle_retry last]
        exact .perform _

/-- A message whose body validates, as the worker sees it. -/
def wellFormed (items : List ReceivedItem) : List ReceivedMessage :=
  items.filterMap fun item => (decodeItem item).toOption

/-- Decoding a batch returns all of its messages, or raises for one of them. -/
theorem decodeBatch_cases (items : List ReceivedItem) :
    (decodeBatch items = .ok (wellFormed items) ∧
        ∀ item ∈ items, (decodeItem item).isOk = true) ∨
      ∃ error, decodeBatch items = .error error ∧
        ∃ item ∈ items, (decodeItem item).isOk = false := by
  induction items with
  | nil => exact .inl ⟨rfl, nofun⟩
  | cons item items ih =>
      rw [decodeBatch]
      cases decoded : decodeItem item with
      | error error =>
          exact .inr ⟨error, rfl, item, List.mem_cons_self, by rw [decoded]; rfl⟩
      | ok received =>
          rcases ih with ⟨rest, valid⟩ | ⟨error, rest, invalid, member, rejected⟩
          · left
            constructor
            · rw [rest]
              simp [wellFormed, decoded, Except.toOption]
              rfl
            · intro other member
              rcases List.mem_cons.mp member with rfl | later
              · rw [decoded]
                rfl
              · exact valid other later
          · right
            refine ⟨error, ?_, invalid, List.mem_cons_of_mem _ member, rejected⟩
            rw [rest]
            rfl

/-- A batch that is done has been dispatched, and nothing escaped. -/
theorem BatchRuns.returned {env : Environment} {batch : List ReceivedMessage}
    {store final : Store} {log : List Dispatch} {result : Except Exn Unit}
    (runs : BatchRuns env batch store log result final) (ended : result = .ok ()) :
    log.map Dispatch.received = batch ∧
      ∀ dispatch ∈ log, dispatch.handling.any Event.raised = false := by
  induction runs with
  | nil store => exact ⟨rfl, nofun⟩
  | handled ran settled later ih =>
      obtain ⟨all, quiet⟩ := ih ended
      constructor
      · rw [List.map_cons, all]
      · intro dispatch member
        rcases List.mem_cons.mp member with rfl | rest
        · have returned := settled.meets (propagates_settle _ _ _ _)
          simpa [Except.isOk, Except.toBool] using returned.symm
        · exact quiet dispatch rest
  | stopped ran settled => cases ended

/-- A batch that was not done was stopped by a call made for an outcome. -/
theorem BatchRuns.raised {env : Environment} {batch : List ReceivedMessage}
    {store final : Store} {log : List Dispatch} {result : Except Exn Unit} {error : Exn}
    (runs : BatchRuns env batch store log result final) (ended : result = .error error) :
    ∃ dispatch ∈ log, dispatch.handling.any Event.raised = true := by
  induction runs with
  | nil store => cases ended
  | handled ran settled later ih =>
      obtain ⟨dispatch, member, loud⟩ := ih ended
      exact ⟨dispatch, List.mem_cons_of_mem _ member, loud⟩
  | stopped ran settled =>
      have escaped := settled.meets (propagates_settle _ _ _ _)
      refine ⟨_, List.mem_cons_self, ?_⟩
      simpa [Except.isOk, Except.toBool] using escaped.symm

/-- All bodies validate, and no call made for the outcome of a pipeline
raises. -/
def Undisturbed (batches : List (List ReceivedItem)) (log : List Dispatch) : Prop :=
  (∀ item ∈ batches.flatten, (decodeItem item).isOk = true) ∧
    ∀ dispatch ∈ log, dispatch.handling.any Event.raised = false

theorem LoopRuns.returned {env : Environment} {batches : List (List ReceivedItem)}
    {store final : Store} {log : List Dispatch} {result : Except Exn Unit}
    (runs : LoopRuns env batches store log result final) (ended : result = .ok ()) :
    log.map Dispatch.received = wellFormed batches.flatten ∧ Undisturbed batches log := by
  induction runs with
  | nil store => exact ⟨rfl, nofun, nofun⟩
  | rejected store invalid => cases ended
  | stopped decoded ran => cases ended
  | @proceeded items later batch _ _ _ log further _ decoded ran rest ih =>
      obtain ⟨all, quiet⟩ := ran.returned rfl
      obtain ⟨allLater, validLater, quietLater⟩ := ih ended
      rcases decodeBatch_cases items with ⟨same, valid⟩ | ⟨error, failed, -⟩
      · rw [decoded, Except.ok.injEq] at same
        refine ⟨?_, ?_, ?_⟩
        · rw [List.map_append, all, allLater, same, List.flatten_cons, wellFormed, wellFormed,
            wellFormed, List.filterMap_append]
        · intro item member
          rcases List.mem_append.mp member with first | second
          · exact valid item first
          · exact validLater item second
        · intro dispatch member
          rcases List.mem_append.mp member with first | second
          · exact quiet dispatch first
          · exact quietLater dispatch second
      · rw [decoded] at failed
        cases failed

theorem LoopRuns.raised {env : Environment} {batches : List (List ReceivedItem)}
    {store final : Store} {log : List Dispatch} {result : Except Exn Unit} {error : Exn}
    (runs : LoopRuns env batches store log result final) (ended : result = .error error) :
    ¬ Undisturbed batches log := by
  rintro ⟨valid, quiet⟩
  induction runs with
  | nil store => cases ended
  | @rejected items later _ store invalid =>
      rcases decodeBatch_cases items with ⟨decoded, -⟩ | ⟨_, -, item, member, rejected⟩
      · rw [decoded] at invalid
        cases invalid
      · have accepted := valid item (List.mem_append_left _ member)
        rw [rejected] at accepted
        cases accepted
  | stopped decoded ran =>
      obtain ⟨dispatch, member, loud⟩ := ran.raised rfl
      rw [quiet dispatch member] at loud
      cases loud
  | proceeded decoded ran rest ih =>
      apply ih ended
      · intro item member
        exact valid item (List.mem_append_right _ member)
      · intro dispatch member
        exact quiet dispatch (List.mem_append_right _ member)

/-- The worker gets through all batches: it takes up every message that
validates and no other, and deletes none that does not, so that the redrive
policy is left to move it to the dead-letter queue. -/
structure Survives (batches : List (List ReceivedItem)) (log : List Dispatch)
    (result : Except Exn Unit) : Prop where
  proceeds : result = .ok ()
  dispatched : log.map Dispatch.received = wellFormed batches.flatten
  undeleted : ∀ item ∈ batches.flatten, (decodeItem item).isOk = false →
    ∀ dispatch ∈ log, ∀ event ∈ dispatch.trace, event.op ≠ .delete item.receiptHandle

/-- Whatever it receives and whatever its calls do, the worker gets through all
batches if and only if every body validates and no call made for the outcome
of a pipeline raises. -/
theorem worker_survives_iff {env : Environment} {batches : List (List ReceivedItem)}
    {store final : Store} {log : List Dispatch} {result : Except Exn Unit}
    (runs : LoopRuns env batches store log result final) :
    Survives batches log result ↔ Undisturbed batches log := by
  constructor
  · intro survives
    exact (runs.returned survives.proceeds).2
  · intro undisturbed
    cases result with
    | error error => exact absurd undisturbed (runs.raised rfl)
    | ok value =>
        constructor
        · rfl
        · exact (runs.returned rfl).1
        · intro item member rejected
          rw [undisturbed.1 item member] at rejected
          cases rejected

/-- A worker that completes a job goes on. -/
theorem worker_survives_completed_job :
    ∃ log result final,
      LoopRuns Sample.environment [[Sample.item]] Sample.known log result final ∧
      Survives [[Sample.item]] log result := by
  have checked : (playback (fun _ _ => true) Sample.delivered
      (workerLoop Sample.environment [[Sample.item]]) Sample.known).any fun played =>
        played.1.any Event.raised = false := by
    decide +kernel
  obtain ⟨trace, result, final, runs, quiet⟩ := runs_of_any checked
  obtain ⟨log, loops, rfl⟩ := runs_workerLoop_iff.mp (runs.mono anyCalls_of_callsWithin)
  refine ⟨log, result, final, loops, (worker_survives_iff loops).mpr ⟨by decide, ?_⟩⟩
  intro dispatch member
  rw [List.any_flatMap, List.any_eq_false] at quiet
  have handled := quiet dispatch member
  rw [Dispatch.trace, List.any_append] at handled
  simpa using (Bool.or_eq_false_iff.mp (Bool.eq_false_of_not_eq_true handled)).2

/-- A body that is not JSON is received before a well-formed message: the
worker stops, and the message is never taken up. -/
theorem malformed_body_stops_worker :
    ∃ log result final,
      LoopRuns Sample.environment [[Sample.malformedItem], [Sample.item]] Sample.known log result
        final ∧
      log.map Dispatch.received = [] ∧
      (wellFormed [Sample.malformedItem, Sample.item]).length = 1 ∧
      ¬ Survives [[Sample.malformedItem], [Sample.item]] log result :=
  ⟨[], _, _, .rejected _ rfl, rfl, rfl, fun survives => nomatch survives.proceeds⟩

end ResearchTool
