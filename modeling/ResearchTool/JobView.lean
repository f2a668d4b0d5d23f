import Mathlib.Algebra.Group.End
import ResearchTool.Process.Renaming
import ResearchTool.Scope

/-!
# The view of a job

What the service holds of a job: its rows, its snapshot, its messages, the
tasks that work on it and the polls for it.  Tasks and messages go by the
numbers they have in the whole service, which depend on the other jobs, so that
a view is also looked at under other numbers.
-/

namespace ResearchTool

open Process

/-- What the stores hold of a job. -/
@[ext]
structure StoreView where
  row : Option ResearchJobRecord
  report : Option FinalResearchReportRecord
  snapshot : Option ResearchJobStateSnapshot
  attributes : QueueAttributes
  messages : Nat → Option QueueMessage

def Store.viewOf (jobId : JobId) (store : Store) : StoreView where
  row := store.jobs jobId
  report := store.reports jobId
  snapshot := store.snapshots jobId
  attributes := store.queue.attributes
  messages id := if store.queue.jobAt id = some jobId then store.queue.messages[id]? else none

/-- Change one message of the job. -/
def StoreView.update (view : StoreView) (id : Nat) (change : QueueMessage → QueueMessage) :
    StoreView :=
  { view with messages := Function.update view.messages id ((view.messages id).map change) }

/-- The job a task is about, as far as it is known. -/
def Task.subject : Task → Option JobId
  | submit job _ => job
  | poll jobId _ _ => some jobId
  | execute received _ => some received.body.jobId
  | settle received _ _ => some received.body.jobId
  | crashed => none

/-- What the service holds of a job; tasks and messages go by the numbers they
have in the whole service. -/
@[ext]
structure JobView where
  store : StoreView
  tasks : Nat → Option Task

def Service.viewOf (jobId : JobId) (service : Service) : JobView where
  store := service.store.viewOf jobId
  tasks index := service.tasks[index]?.filter fun task => task.subject = some jobId

/-- A task takes a place in the view, if it is about the job. -/
def JobView.putTask (view : JobView) (jobId : JobId) (index : Nat) (task : Task) : JobView :=
  { view with
    tasks := Function.update view.tasks index
      ((some task).filter fun task => task.subject = some jobId) }

theorem Service.tasks_viewOf {jobId : JobId} {service : Service} {index : Nat} {task : Task} :
    (service.viewOf jobId).tasks index = some task ↔
      service.tasks[index]? = some task ∧ task.subject = some jobId := by
  simp [viewOf, Option.filter_eq_some_iff]

theorem Store.messages_viewOf {jobId : JobId} {store : Store} {id : Nat}
    (about : store.queue.jobAt id = some jobId) :
    (store.viewOf jobId).messages id = store.queue.messages[id]? :=
  if_pos about

/-- What leaves a job alone leaves its view. -/
theorem Store.Spares.viewOf {jobId : JobId} {before after : Store}
    (spares : before.Spares jobId after)
    (attributes : after.queue.attributes = before.queue.attributes) :
    after.viewOf jobId = before.viewOf jobId := by
  ext1
  · exact spares.job
  · exact spares.report
  · exact spares.snapshot
  · exact attributes
  · funext id
    by_cases about : before.queue.jobAt id = some jobId
    · rw [messages_viewOf about, messages_viewOf ((spares.sent id).mpr about),
        spares.messages id about]
    · exact (if_neg fun sent => about ((spares.sent id).mp sent)).trans (if_neg about).symm

/-- A message of the job moves. -/
theorem Store.viewOf_update {jobId : JobId} {store : Store} {id : Nat}
    {change : QueueMessage → QueueMessage}
    (keepsBody : ∀ message, (change message).body = message.body)
    (about : store.queue.jobAt id = some jobId) :
    (store.putQueue (store.queue.update id change)).viewOf jobId =
      (store.viewOf jobId).update id change := by
  have moves := Queue.moves_update store.queue id keepsBody
  ext1
  case messages =>
    funext other
    rw [StoreView.update, messages_viewOf about]
    simp only [Store.viewOf, Store.putQueue_queue, moves.jobAt, Queue.messages_update]
    by_cases same : other = id
    · subst same
      rw [if_pos about, if_pos rfl, Function.update_self]
    · rw [if_neg (Ne.symm same), Function.update_of_ne same]
  all_goals rfl

theorem Service.viewOf_spawn (jobId : JobId) (service : Service) (task : Task) :
    (service.spawn [task]).viewOf jobId =
      (service.viewOf jobId).putTask jobId service.tasks.length task := by
  ext1
  · rfl
  · funext index
    rcases Nat.lt_trichotomy index service.tasks.length with below | rfl | above
    · simp [viewOf, JobView.putTask, Function.update_of_ne (Nat.ne_of_lt below),
        List.getElem?_append_left below]
    · simp [viewOf, JobView.putTask]
    · have beyond : (service.tasks ++ [task])[index]? = none :=
        List.getElem?_eq_none (by simp; omega)
      simp [viewOf, JobView.putTask, Function.update_of_ne (Nat.ne_of_gt above),
        List.getElem?_eq_none (Nat.le_of_lt above), beyond]

theorem Service.viewOf_setTask {jobId : JobId} {service : Service} {index : Nat} {task : Task}
    (next : Task) (found : service.tasks[index]? = some task) :
    (service.setTask index next).viewOf jobId =
      (service.viewOf jobId).putTask jobId index next := by
  have within : index < service.tasks.length := (List.getElem?_eq_some_iff.mp found).1
  ext1
  · rfl
  · funext other
    by_cases same : other = index
    · subst same
      simp [viewOf, JobView.putTask, within]
    · simp [viewOf, JobView.putTask, Function.update_of_ne same,
        List.getElem?_set_ne (Ne.symm same)]

/-- A task that is not about the job takes no place. -/
theorem JobView.putTask_foreign {jobId : JobId} {view : JobView} {index : Nat} {task : Task}
    (vacant : view.tasks index = none) (foreign : task.subject ≠ some jobId) :
    view.putTask jobId index task = view := by
  ext1
  · rfl
  · simp [putTask, Option.filter, foreign, ← vacant]

theorem Store.viewOf_putJob {jobId : JobId} {store : Store} {record : ResearchJobRecord} :
    (store.putJob jobId record).viewOf jobId = { store.viewOf jobId with row := some record } := by
  ext1 <;> simp [viewOf]

theorem Store.viewOf_putReport {jobId : JobId} {store : Store}
    {record : FinalResearchReportRecord} :
    (store.putReport jobId record).viewOf jobId =
      { store.viewOf jobId with report := some record } := by
  ext1 <;> simp [viewOf]

theorem Store.viewOf_putSnapshot {store : Store} {snapshot : ResearchJobStateSnapshot} :
    (store.putSnapshot snapshot).viewOf snapshot.jobId =
      { store.viewOf snapshot.jobId with snapshot := some snapshot } := by
  ext1 <;> simp [viewOf]

theorem Store.viewOf_enqueue {store : Store} {message : ResearchJobMessage} :
    (store.putQueue (store.queue.enqueue (.job message))).viewOf message.jobId =
      { store.viewOf message.jobId with
        messages := Function.update (store.viewOf message.jobId).messages
          store.queue.messages.length (some { body := .job message }) } := by
  ext1
  case messages =>
    funext id
    simp only [viewOf, Store.putQueue_queue, jobAt_enqueue]
    by_cases last : id = store.queue.messages.length
    · subst last
      simp [Queue.enqueue, MessageBody.jobId?]
    · rw [if_neg last, Function.update_of_ne last]
      split
      · rename_i about
        have within : id < store.queue.messages.length := by
          by_contra beyond
          simp [jobAt_eq_none_of_length_le (Nat.le_of_not_lt beyond)] at about
        exact List.getElem?_append_left within
      · rfl
  all_goals rfl

/-! ## Other numbers -/

/-- Other numbers for the tasks and the messages of a service. -/
structure Renumbering where
  tasks : Equiv.Perm Nat
  messages : Equiv.Perm Nat

def ReceiptHandle.renumber (messages : Equiv.Perm Nat) (handle : ReceiptHandle) : ReceiptHandle :=
  { handle with message := messages handle.message }

def ReceivedMessage.renumber (messages : Equiv.Perm Nat) (received : ReceivedMessage) :
    ReceivedMessage :=
  { received with receiptHandle := received.receiptHandle.renumber messages }

/-- Only the handle of a message has a number. -/
def Op.renumber (messages : Equiv.Perm Nat) : Op → Op
  | .delete handle => .delete (handle.renumber messages)
  | .changeVisibility handle seconds => .changeVisibility (handle.renumber messages) seconds
  | op => op

def Ops.renumbered (messages : Equiv.Perm Nat) : Renaming Ops where
  op := Op.renumber messages
  reply op := by cases op <;> rfl

def Task.renumber (messages : Equiv.Perm Nat) : Task → Task
  | submit job program => submit job (program.rename (Ops.renumbered messages))
  | poll jobId known program => poll jobId known (program.rename (Ops.renumbered messages))
  | execute received program =>
      execute (received.renumber messages) (program.rename (Ops.renumbered messages))
  | settle received outcome program =>
      settle (received.renumber messages) outcome (program.rename (Ops.renumbered messages))
  | crashed => crashed

def StoreView.renumber (messages : Equiv.Perm Nat) (view : StoreView) : StoreView :=
  { view with messages := fun id => view.messages (messages.symm id) }

/-- The same view under other numbers. -/
def JobView.renumber (numbers : Renumbering) (view : JobView) : JobView where
  store := view.store.renumber numbers.messages
  tasks index := (view.tasks (numbers.tasks.symm index)).map (Task.renumber numbers.messages)

section

variable {messages : Equiv.Perm Nat}

@[simp]
theorem StoreView.messages_renumber (view : StoreView) (id : Nat) :
    (view.renumber messages).messages (messages id) = view.messages id := by
  simp [renumber]

theorem StoreView.renumber_putMessage (view : StoreView) (id : Nat)
    (message : Option QueueMessage) :
    StoreView.renumber messages
      { view with messages := Function.update view.messages id message } =
      { view.renumber messages with
        messages := Function.update (view.renumber messages).messages (messages id) message } := by
  ext1
  case messages =>
    funext other
    by_cases same : other = messages id
    · subst same
      simp
    · have different : messages.symm other ≠ id := fun back => same (by simp [← back])
      simp [renumber, Function.update_of_ne same, Function.update_of_ne different]
  all_goals rfl

theorem StoreView.renumber_update (view : StoreView) (id : Nat)
    (change : QueueMessage → QueueMessage) :
    (view.update id change).renumber messages =
      (view.renumber messages).update (messages id) change := by
  rw [update, renumber_putMessage, update, messages_renumber]

@[simp]
theorem JobView.tasks_renumber {numbers : Renumbering} (view : JobView) (index : Nat) :
    (view.renumber numbers).tasks (numbers.tasks index) =
      (view.tasks index).map (Task.renumber numbers.messages) := by
  simp [renumber]

@[simp]
theorem Task.subject_renumber (task : Task) : (task.renumber messages).subject = task.subject := by
  cases task <;> rfl

theorem Task.pending_renumber (task : Task) :
    (task.renumber messages).pending = task.pending.map (Op.renumber messages) := by
  cases task with
  | crashed => rfl
  | _ => exact Program.pending_rename _

theorem JobView.renumber_putTask {numbers : Renumbering} (view : JobView) (jobId : JobId)
    (index : Nat) (task : Task) :
    (view.putTask jobId index task).renumber numbers =
      (view.renumber numbers).putTask jobId (numbers.tasks index)
        (task.renumber numbers.messages) := by
  ext1
  · rfl
  · funext other
    by_cases same : other = numbers.tasks index
    · subst same
      rw [tasks_renumber]
      by_cases own : task.subject = some jobId
      · simp [putTask, Option.filter, own]
      · simp [putTask, Option.filter, own]
    · have different : numbers.tasks.symm other ≠ index := fun back => same (by simp [← back])
      simp [renumber, putTask, Function.update_of_ne same, Function.update_of_ne different]

/-! ### Programs under other numbers -/

theorem Op.renumber_of_sparesQueue {op : Op} (spares : op.SparesQueue) :
    op.renumber messages = op := by
  cases op with
  | delete | changeVisibility => cases spares
  | _ => rfl

theorem Op.IsPoll.renumber {jobId : JobId} {op : Op} (poll : op.IsPoll jobId) :
    op.renumber messages = op := by
  cases op with
  | delete | changeVisibility => cases poll
  | _ => rfl

theorem Op.IsSubmission.renumber {jobId : JobId} {op : Op} (submission : op.IsSubmission jobId) :
    op.renumber messages = op := by
  cases op with
  | delete | changeVisibility => cases submission
  | _ => rfl

/-- A program that handles no message stays as it is. -/
theorem rename_of_renumber {α : Type} {allowed : Op → Prop} {program : Coroutine α}
    (uses : program.Uses allowed) (kept : ∀ op, allowed op → op.renumber messages = op) :
    program.rename (Ops.renumbered messages) = program :=
  Program.rename_of_uses (uses.mono kept)

/-- The handling of an outcome, under another number of the message. -/
theorem settle_renumber (settings : Settings) (received : ReceivedMessage)
    (outcome : Except Exn Unit) :
    (settle settings received outcome).rename (Ops.renumbered messages) =
      settle settings (received.renumber messages) outcome := by
  have released : (await (.changeVisibility received.receiptHandle 0)).rename
      (Ops.renumbered messages) =
        await (.changeVisibility (received.receiptHandle.renumber messages) 0) := by
    refine congrArg (Program.call _) (funext fun reply => ?_)
    cases reply <;> rfl
  cases outcome with
  | ok value =>
      refine congrArg (Program.call _) (funext fun reply => ?_)
      cases reply <;> rfl
  | error error =>
      by_cases last : settings.maxQueueAttempts ≤ received.receiveCount
      · have marked : (markFailed received.body.jobId error).rename (Ops.renumbered messages) =
            markFailed received.body.jobId error :=
          rename_of_renumber (sparesQueue_markFailed _ _) fun _ => Op.renumber_of_sparesQueue
        rw [settle_exhausted last, @settle_exhausted settings (received.renumber messages) last]
        exact (Program.rename_bind _ _).trans
          (congrArg₂ Program.bind marked (funext fun _ => released))
      · rw [settle_retry last, @settle_retry settings (received.renumber messages) last]
        exact released

theorem Task.working_renumber (settings : Settings) (received : ReceivedMessage)
    (program : Coroutine Unit) :
    (working settings received program).renumber messages =
      working settings (received.renumber messages)
        (program.rename (Ops.renumbered messages)) := by
  cases program with
  | call op resume => rfl
  | pure value => exact congrArg (settle _ _) (settle_renumber settings received _)
  | raise error => exact congrArg (settle _ _) (settle_renumber settings received _)

end

end ResearchTool
