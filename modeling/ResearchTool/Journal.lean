import ResearchTool.Process.Logic
import ResearchTool.Process.Sequential
import ResearchTool.Scope

/-!
# Runs of the service with a journal

The journal lists, task by task, the calls that the task has made.  Conditions
on runs may look at it, and so may the terms under which the tasks share the
stores: what a task may rely on depends on what it has seen and done.
-/

namespace ResearchTool

open Process

/-- The calls of one task, in order. -/
abbrev Trace :=
  List (Event Ops Exn)

/-- The calls of every task. -/
abbrev Journal :=
  Nat → Trace

/-- The call that an action ends, and the task that made it. -/
def Action.call (service : Service) : Action → Option (Nat × Event Ops Exn)
  | .resume index outcome =>
      (service.tasks[index]?.bind Task.pending).bind fun op =>
        (exec op outcome service.store).map fun result => (index, ⟨op, result.1⟩)
  | _ => none

/-- A call is added to what its task has done. -/
def Journal.note (action : Action) (service : Service) (journal : Journal) : Journal :=
  match action.call service with
  | some (index, event) => Function.update journal index (journal index ++ [event])
  | none => journal

/-- A step of the service that is written down. -/
abbrev Service.noted (env : Environment) :
    Action → Service × Journal → Option (Service × Journal) :=
  noting (Service.step env) Journal.note

/-- Nothing has been called yet. -/
def Service.unnoted (service : Service) : Service × Journal :=
  (service, fun _ => [])

/-! ## Tasks as programs -/

/-- What a task still does.  A worker's task ends with the handling of its
outcome; only requests have an answer. -/
def Task.body (settings : Settings) : Task → Coroutine (Option Answer)
  | submit _ program => program.bind fun answer => .pure (some answer)
  | poll _ _ program => program.bind fun answer => .pure (some answer)
  | execute received program =>
      (program.attempt.bind (ResearchTool.settle settings received)).bind fun _ => .pure none
  | settle _ _ program => program.bind fun _ => .pure none
  | crashed => .pure none

/-- Who acts in a task. -/
inductive Role where
  | submitter
  | poller (jobId : JobId)
  | worker (received : ReceivedMessage)
  | nobody

def Task.role : Task → Role
  | submit _ _ => .submitter
  | poll jobId _ _ => .poller jobId
  | execute received _ => .worker received
  | settle received _ _ => .worker received
  | crashed => .nobody

theorem Task.body_working (settings : Settings) (received : ReceivedMessage)
    (program : Coroutine Unit) :
    (Task.working settings received program).body settings =
      (program.attempt.bind (ResearchTool.settle settings received)).bind fun _ => .pure none := by
  cases program <;> rfl

theorem Task.role_working (settings : Settings) (received : ReceivedMessage)
    (program : Coroutine Unit) :
    (Task.working settings received program).role = .worker received := by
  cases program <;> rfl

/-- A resumed task makes the first call of its body. -/
theorem Task.Resumes.body {settings : Settings} {outcome : Outcome} {store after : Store}
    {task next : Task} (resumes : task.Resumes settings outcome store after next) :
    ∃ (op : Op) (resume : Except Exn op.Reply → Coroutine (Option Answer))
      (reply : Except Exn op.Reply),
      task.pending = some op ∧ task.body settings = .call op resume ∧
        next.body settings = resume reply ∧ next.role = task.role ∧
        ResearchTool.exec op outcome store = some (reply, after) := by
  cases resumes with
  | submit job op next reply called => exact ⟨op, _, reply, rfl, rfl, rfl, rfl, called⟩
  | poll jobId known op next reply called => exact ⟨op, _, reply, rfl, rfl, rfl, rfl, called⟩
  | execute received op next reply called =>
      exact ⟨op, _, reply, rfl, rfl, body_working _ _ _, role_working _ _ _, called⟩
  | settle received ended op next reply called =>
      exact ⟨op, _, reply, rfl, rfl, rfl, rfl, called⟩

/-- The task has ended if it waits for nothing. -/
def Task.Ends (settings : Settings) (task : Task) : Prop :=
  task.isLive = false → ∃ outcome, task.body settings = Program.ofExcept outcome

theorem ends_of_waits {α : Type} (program : Coroutine α) (answer : α → Option Answer)
    (waits : program.pending.isSome = false) :
    ∃ outcome, (program.bind fun value => .pure (answer value)) = Program.ofExcept outcome := by
  cases program with
  | pure value => exact ⟨.ok (answer value), rfl⟩
  | raise error => exact ⟨.error error, rfl⟩
  | call op resume => cases waits

theorem Task.ends_submit (settings : Settings) (job : Option JobId) (program : Coroutine Answer) :
    (Task.submit job program).Ends settings :=
  ends_of_waits program _

theorem Task.ends_poll (settings : Settings) (jobId : JobId) (known : Bool)
    (program : Coroutine Answer) : (Task.poll jobId known program).Ends settings :=
  ends_of_waits program _

theorem Task.ends_settle (settings : Settings) (received : ReceivedMessage)
    (outcome : Except Exn Unit) (program : Coroutine Unit) :
    (Task.settle received outcome program).Ends settings :=
  ends_of_waits program fun _ => none

theorem Task.ends_crashed (settings : Settings) : Task.crashed.Ends settings :=
  fun _ => ⟨.ok none, rfl⟩

theorem Task.ends_working (settings : Settings) (received : ReceivedMessage)
    (program : Coroutine Unit) : (Task.working settings received program).Ends settings := by
  cases program with
  | pure value => exact ends_settle settings received _ _
  | raise error => exact ends_settle settings received _ _
  | call op resume =>
      intro waits
      cases waits

theorem Task.Resumes.ends {settings : Settings} {outcome : Outcome} {store after : Store}
    {task next : Task} (resumes : task.Resumes settings outcome store after next) :
    next.Ends settings := by
  cases resumes with
  | submit => exact ends_submit settings _ _
  | poll => exact ends_poll settings _ _ _
  | execute => exact ends_working settings _ _
  | settle => exact ends_settle settings _ _ _

/-! ## What the journal says -/

/-- The job whose row the calls created. -/
def Trace.registered (trace : Trace) : Option JobId :=
  trace.foldl (fun job event => job <|> Task.registered event.op event.reply) none

theorem Trace.registered_append (trace : Trace) (event : Event Ops Exn) :
    Trace.registered (trace ++ [event]) =
      (Trace.registered trace <|> Task.registered event.op event.reply) := by
  simp [Trace.registered, List.foldl_append]

/-- The journal is about the tasks of the service. -/
structure Service.Recorded (service : Service) (journal : Journal) : Prop where
  fresh : ∀ index, service.tasks.length ≤ index → journal index = []
  registered : ∀ (index : Nat) (job : Option JobId) (program : Coroutine Answer),
    service.tasks[index]? = some (.submit job program) → Trace.registered (journal index) = job

theorem Journal.note_of_resume {service : Service} {journal : Journal} {index : Nat}
    {outcome : Outcome} {task : Task} {op : Op} {reply : Except Exn op.Reply} {after : Store}
    (found : service.tasks[index]? = some task) (pending : task.pending = some op)
    (called : exec op outcome service.store = some (reply, after)) :
    journal.note (.resume index outcome) service =
      Function.update journal index (journal index ++ [⟨op, reply⟩]) := by
  simp [Journal.note, Action.call, found, pending, called]

/-- What a task has done is not forgotten. -/
theorem Journal.subset_note (journal : Journal) (action : Action) (service : Service)
    (index : Nat) : journal index ⊆ journal.note action service index := by
  rw [Journal.note]
  cases action.call service with
  | none => exact List.Subset.refl _
  | some call =>
      obtain ⟨author, event⟩ := call
      by_cases same : index = author
      · subst same
        simp only [Function.update_self]
        exact List.subset_append_left _ _
      · simp only [Function.update_of_ne same]
        exact List.Subset.refl _

namespace Service.Recorded

variable {service : Service} {journal : Journal}

theorem spawn (recorded : service.Recorded journal) {task : Task}
    (unregistered : ∀ job program, task = .submit job program → job = none) :
    (service.spawn [task]).Recorded journal where
  fresh index beyond := by
    have longer : (service.tasks ++ [task]).length ≤ index := beyond
    rw [List.length_append] at longer
    exact recorded.fresh index (Nat.le_trans (Nat.le_add_right _ _) longer)
  registered index job program member := by
    rcases Service.spawned_cases member with old | ⟨rfl, same⟩
    · exact recorded.registered index job program old
    · rw [recorded.fresh _ (Nat.le_refl _), unregistered job program same.symm]
      rfl

theorem replace (recorded : service.Recorded journal) {index : Nat} (task : Task) (store : Store)
    (trace : Trace) (within : index < service.tasks.length)
    (registered : ∀ job program, task = .submit job program → Trace.registered trace = job) :
    Service.Recorded { service.setTask index task with store := store }
      (Function.update journal index trace) where
  fresh other beyond := by
    simp only [Service.setTask_tasks, List.length_set] at beyond
    have different : other ≠ index := by omega
    rw [Function.update_of_ne different]
    exact recorded.fresh other beyond
  registered other job program member := by
    rcases Service.replaced_cases member with ⟨rfl, same⟩ | ⟨different, old⟩
    · rw [Function.update_self]
      exact registered job program same.symm
    · rw [Function.update_of_ne different]
      exact recorded.registered other job program old

end Service.Recorded

/-- Every step is written down. -/
theorem Step.recorded {env : Environment} {action : Action} {service after : Service}
    {journal : Journal} (moved : Step env service action after)
    (recorded : service.Recorded journal) :
    after.Recorded (journal.note action service) := by
  cases moved with
  | submit context request =>
      apply recorded.spawn
      intro job program same
      exact (Task.submit.inj same).1.symm
  | poll context jobId =>
      apply recorded.spawn
      intro job program same
      exact absurd (congrArg Task.role same) nofun
  | deliver id message body found visible below named =>
      apply Service.Recorded.spawn
      · exact ⟨recorded.fresh, recorded.registered⟩
      · intro job program same
        have worker := congrArg Task.role same
        rw [Task.role_working] at worker
        cases worker
  | resume index outcome task next store found resumes =>
      obtain ⟨op, reply, pending, noted⟩ := resumes.exec
      rw [Journal.note_of_resume found pending noted]
      apply recorded.replace _ _ _ (List.getElem?_eq_some_iff.mp found).1
      rintro job program rfl
      rw [Trace.registered_append]
      generalize named : Task.submit job program = next at resumes
      cases resumes with
      | submit before other resume answer called =>
          rw [recorded.registered index before _ found, (Task.submit.inj named).1]
          cases pending
          cases noted.symm.trans called
          rfl
      | poll => cases named
      | execute received op resume reply called =>
          cases continued : resume reply <;> rw [continued] at named <;> cases named
      | settle => cases named
  | crash index task found live =>
      have replaced := recorded.replace .crashed service.store (journal index)
        (List.getElem?_eq_some_iff.mp found).1 nofun
      rw [Function.update_eq_self] at replaced
      exact replaced
  | reject | expireSnapshot | expireCached | timeout | redrive =>
      exact ⟨recorded.fresh, recorded.registered⟩

/-- Every run is written down. -/
theorem Service.recorded_of_run {env : Environment} {dlqArn : String}
    {aiCache : String → Option CachedPayload} {permits : Action → Service × Journal → Bool}
    {actions : List Action} {final : Service × Journal}
    (ran : runWithin (Service.noted env) permits actions
      (Service.initial env.settings dlqArn aiCache).unnoted = some final) :
    final.1.Recorded final.2 := by
  apply runWithin_induction (fun state => state.1.Recorded state.2) _ _ ran
  · rintro action ⟨service, journal⟩ ⟨after, noted⟩ _ moved recorded
    obtain ⟨stepped, rfl⟩ := noting_eq_some_iff.mp moved
    exact (Service.step_cases stepped).recorded recorded
  · exact ⟨fun _ _ => rfl, fun _ _ _ found => by cases found⟩

end ResearchTool
