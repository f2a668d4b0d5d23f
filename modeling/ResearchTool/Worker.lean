import ResearchTool.Pipeline

/-!
# The queue worker

The body of the loops of `run_worker`.  `settle` is the `except` and `else`
part of the statement around the pipeline.
-/

namespace ResearchTool

open Process

/-- The progress message of a job whose last attempt failed. -/
def retriesExhausted : String :=
  "Research failed after maximum retry attempts"

/-- The failure branch of the last attempt: mark row and snapshot. -/
def markFailed (jobId : JobId) (error : Exn) : Coroutine Unit := do
  let _ ← withSession fun session =>
    updateJobStatus session jobId {
      status := some .failed
      progressMsg := some retriesExhausted
      error := some (some error.str)
    }
  let now ← await .now
  await (.setState {
    jobId
    status := .failed
    progressMsg := retriesExhausted
    updatedAt := now
    error := some error.str
  })

/-- What the worker does with the outcome of the pipeline. -/
def settle (settings : Settings) (received : ReceivedMessage) :
    Except Exn Unit → Coroutine Unit
  | .ok _ => await (.delete received.receiptHandle)
  | .error error => do
      if settings.maxQueueAttempts ≤ received.receiveCount then
        markFailed received.body.jobId error
      await (.changeVisibility received.receiptHandle 0)

/-- On the last attempt the job is marked before its message is released. -/
theorem settle_exhausted {settings : Settings} {received : ReceivedMessage}
    (last : settings.maxQueueAttempts ≤ received.receiveCount) (error : Exn) :
    settle settings received (.error error) =
      (markFailed received.body.jobId error).bind fun _ =>
        await (.changeVisibility received.receiptHandle 0) :=
  if_pos last

/-- Before the last attempt the message is only released. -/
theorem settle_retry {settings : Settings} {received : ReceivedMessage}
    (more : ¬ settings.maxQueueAttempts ≤ received.receiveCount) (error : Exn) :
    settle settings received (.error error) =
      await (.changeVisibility received.receiptHandle 0) :=
  if_neg more

/-- The operations that handle the outcome of a delivery. -/
def Op.IsSettling (received : ReceivedMessage) : Op → Prop
  | .now => True
  | .closeSession => True
  | .selectJob id => id = received.body.jobId
  | .updateJob id _ => id = received.body.jobId
  | .refreshJob id => id = received.body.jobId
  | .setState snapshot =>
      snapshot.jobId = received.body.jobId ∧ snapshot.status = .failed ∧ snapshot.error.isSome
  | .delete handle => handle = received.receiptHandle
  | .changeVisibility handle _ => handle = received.receiptHandle
  | _ => False

theorem uses_markFailed (received : ReceivedMessage) (error : Exn) :
    (markFailed received.body.jobId error).Uses (Op.IsSettling received) := by
  apply Program.Uses.bind
  · exact uses_withSession (uses_updateJobStatus _ _ _ rfl (fun _ => rfl) rfl) trivial
  intro updated
  apply Program.Uses.perform_bind
  · trivial
  intro now
  exact Program.Uses.perform ⟨rfl, rfl, rfl⟩

theorem uses_settle (settings : Settings) (received : ReceivedMessage)
    (outcome : Except Exn Unit) :
    (settle settings received outcome).Uses (Op.IsSettling received) := by
  cases outcome with
  | ok value => exact Program.Uses.perform rfl
  | error error =>
      by_cases last : settings.maxQueueAttempts ≤ received.receiveCount
      · rw [settle_exhausted last]
        apply Program.Uses.bind
        · exact uses_markFailed received error
        intro _
        exact Program.Uses.perform rfl
      · rw [settle_retry last]
        exact Program.Uses.perform rfl

/-- The operation leaves the queue alone. -/
def Op.SparesQueue : Op → Prop
  | .send _ => False
  | .delete _ => False
  | .changeVisibility _ _ => False
  | _ => True

/-- A pipeline does nothing to messages. -/
theorem Op.IsPipeline.sparesQueue {jobId : JobId} {op : Op} (pipeline : op.IsPipeline jobId) :
    op.SparesQueue := by
  cases op with
  | send | delete | changeVisibility => cases pipeline
  | _ => trivial

theorem sparesQueue_markFailed (jobId : JobId) (error : Exn) :
    (markFailed jobId error).Uses Op.SparesQueue := by
  apply Program.Uses.bind
  · exact uses_withSession (uses_updateJobStatus _ _ _ trivial (fun _ => trivial) trivial) trivial
  intro updated
  apply Program.Uses.perform_bind
  · trivial
  intro now
  exact Program.Uses.perform trivial

/-- The body of the `for` loop. -/
def handleReceived (env : Environment) (received : ReceivedMessage) : Coroutine Unit := do
  let outcome ← Program.attempt (executeResearchPipeline env received.body)
  settle env.settings received outcome

/-- `handleReceived` as the sequence of its parts. -/
theorem handleReceived_eq (env : Environment) (received : ReceivedMessage) :
    handleReceived env received =
      (Program.attempt (executeResearchPipeline env received.body)).bind
        (settle env.settings received) :=
  rfl

/-- The `for` loop over one batch. -/
def handleBatch (env : Environment) : List ReceivedMessage → Coroutine Unit
  | [] => pure ()
  | received :: rest => do
      handleReceived env received
      handleBatch env rest

/-- One round of the `while` loop: decode what the broker returned and handle
every message. -/
def workerRound (env : Environment) (items : List ReceivedItem) : Coroutine Unit := do
  let received ← Program.ofExcept (decodeBatch items)
  handleBatch env received

/-- The `while` loop, over the batches that its receives return. -/
def workerLoop (env : Environment) : List (List ReceivedItem) → Coroutine Unit
  | [] => pure ()
  | items :: later => do
      workerRound env items
      workerLoop env later

end ResearchTool
