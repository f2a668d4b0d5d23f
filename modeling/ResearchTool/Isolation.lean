import ResearchTool.JobView
import ResearchTool.Process.Unwinding

/-!
# One job among others

A step of the service either shows in the view of a job, and then its effect
depends on the view and on what the step meets outside, or it leaves the view
as it was.  Two runs in which the same happens to a job therefore leave it the
same up to the numbers of its tasks and messages, whatever happens to other
jobs in between.  The AI cache is what jobs share: an entry that a job reads is
part of what happens to it.
-/

namespace ResearchTool

open Process

/-! ## Calls that depend on the view -/

/-- The operation asks only about the job, or about nothing that is kept for a
job. -/
def Op.Concerns (jobId : JobId) (store : Store) : Op → Prop
  | .setState snapshot => snapshot.jobId = jobId
  | .getState id => id = jobId
  | .selectJob id => id = jobId
  | .insertJob record => record.jobId = jobId
  | .updateJob id _ => id = jobId
  | .refreshJob id => id = jobId
  | .selectReport id => id = jobId
  | .insertReport record => record.jobId = jobId
  | .updateReport id _ => id = jobId
  | .refreshReport id => id = jobId
  | .send message => message.jobId = jobId
  | .delete handle => store.queue.jobAt handle.message = some jobId
  | .changeVisibility handle _ => store.queue.jobAt handle.message = some jobId
  | _ => True

/-- What a call meets outside the view of its job. -/
inductive Met where
  | nothing
  /-- the entry of the AI cache that is read -/
  | cached (payload : Option CachedPayload)
  /-- the number a message gets -/
  | position (id : Nat)

def Op.meets (store : Store) : Op → Met
  | .getCachedAiResult cacheKey => .cached (store.aiCache cacheKey)
  | .send _ => .position store.queue.messages.length
  | _ => .nothing

theorem Task.May.concerns {task : Task} {store : Store} {op : Op} {jobId : JobId}
    (may : task.May store op) (subject : task.subject = some jobId) : op.Concerns jobId store := by
  cases may with
  | start program starts => cases subject
  | submit id program present submission =>
      cases subject
      cases op with
      | setState snapshot => exact submission.named
      | uuid4 | fetchRepositoryContext | analyze | setCachedAiResult | getState | insertJob
      | closeSession | delete | changeVisibility => cases submission
      | _ => exact submission
  | poll id known program poll =>
      cases subject
      cases op with
      | getState | selectReport => exact poll
      | _ => cases poll
  | work task received delivery about works =>
      have named : received.body.jobId = jobId := by
        cases task with
        | execute | settle =>
            cases delivery
            exact Option.some.inj subject
        | submit | poll | crashed => cases delivery
      subst named
      rcases works with pipeline | settling
      · cases op with
        | uuid4 | insertJob | send | delete | changeVisibility => cases pipeline
        | _ => exact pipeline
      · cases op with
        | setState snapshot => exact settling.1
        | delete handle =>
            have same : handle = received.receiptHandle := settling
            rw [same]
            exact about
        | changeVisibility handle seconds =>
            have same : handle = received.receiptHandle := settling
            rw [same]
            exact about
        | now | closeSession | selectJob | updateJob | refreshJob => exact settling
        | _ => cases settling

theorem Queue.isCurrent_eq {queue : Queue} {handle : ReceiptHandle} :
    queue.isCurrent handle =
      queue.messages[handle.message]?.any fun message =>
        message.receiveCount == handle.receive := by
  unfold isCurrent
  cases queue.messages[handle.message]? <;> rfl

/-- What is met, under other numbers. -/
def Met.renumber (messages : Equiv.Perm Nat) : Met → Met
  | position id => position (messages id)
  | met => met

/-- A message of the job moves in two stores alike. -/
theorem viewOf_update_alike {jobId : JobId} {messages : Equiv.Perm Nat} {first second : Store}
    {id : Nat} {change : QueueMessage → QueueMessage}
    (keepsBody : ∀ message, (change message).body = message.body)
    (here : first.queue.jobAt id = some jobId)
    (there : second.queue.jobAt (messages id) = some jobId)
    (same : second.viewOf jobId = (first.viewOf jobId).renumber messages) :
    (second.putQueue (second.queue.update (messages id) change)).viewOf jobId =
      ((first.putQueue (first.queue.update id change)).viewOf jobId).renumber messages := by
  rw [Store.viewOf_update keepsBody here, Store.viewOf_update keepsBody there, same,
    StoreView.renumber_update]

/-- A call about a job has the same reply and the same effect in stores that
hold the same of it, and meet it with the same from outside, up to the numbers
of messages. -/
theorem answer_alike {jobId : JobId} {messages : Equiv.Perm Nat} {op : Op} {supply : Supply}
    {first second first' second' : Store} {reply : Except Exn op.Reply}
    {reply' : Except Exn (op.renumber messages).Reply} (here : op.Concerns jobId first)
    (there : (op.renumber messages).Concerns jobId second)
    (same : second.viewOf jobId = (first.viewOf jobId).renumber messages)
    (met : (op.renumber messages).meets second = (op.meets first).renumber messages)
    (answered : answer op supply first = some (reply, first'))
    (replied : answer (op.renumber messages) supply second = some (reply', second')) :
    (Ops.renumbered messages).restore op reply' = reply ∧
      second'.viewOf jobId = (first'.viewOf jobId).renumber messages := by
  have row : second.jobs jobId = first.jobs jobId := congrArg StoreView.row same
  have report : second.reports jobId = first.reports jobId := congrArg StoreView.report same
  have snapshot : second.snapshots jobId = first.snapshots jobId :=
    congrArg StoreView.snapshot same
  have current : ∀ handle : ReceiptHandle, first.queue.jobAt handle.message = some jobId →
      second.queue.jobAt (messages handle.message) = some jobId →
        second.queue.isCurrent (handle.renumber messages) = first.queue.isCurrent handle := by
    intro handle about also
    have found := congrFun (congrArg StoreView.messages same) (messages handle.message)
    rw [Store.messages_viewOf also, StoreView.messages_renumber, Store.messages_viewOf about]
      at found
    rw [Queue.isCurrent_eq, Queue.isCurrent_eq, ReceiptHandle.renumber, found]
  cases op with
  | now | uuid4 | fetchRepositoryContext | analyze | closeSession =>
      cases supply <;> simp only [answer, Op.renumber, reduceCtorEq] at answered replied
      cases answered
      cases replied
      exact ⟨rfl, same⟩
  | setState written =>
      cases supply <;> simp only [answer, Op.renumber, reduceCtorEq] at answered replied
      cases answered
      cases replied
      cases here
      rw [Store.viewOf_putSnapshot, Store.viewOf_putSnapshot, same]
      exact ⟨rfl, rfl⟩
  | getState id =>
      cases here
      cases supply <;> simp only [answer, Op.renumber, reduceCtorEq] at answered replied
      cases answered
      cases replied
      exact ⟨congrArg Except.ok snapshot, same⟩
  | getCachedAiResult cacheKey =>
      have entry : second.aiCache cacheKey = first.aiCache cacheKey := Met.cached.inj met
      cases supply <;> simp only [answer, Op.renumber, entry, reduceCtorEq] at answered replied
      cases found : first.aiCache cacheKey with
      | none =>
          rw [found] at answered replied
          cases answered
          cases replied
          exact ⟨rfl, same⟩
      | some payload =>
          rw [found] at answered replied
          cases payload <;> cases answered <;> cases replied <;> exact ⟨rfl, same⟩
  | setCachedAiResult cacheKey insights =>
      cases supply <;> simp only [answer, Op.renumber, reduceCtorEq] at answered replied
      cases answered
      cases replied
      exact ⟨rfl, same⟩
  | selectJob id =>
      cases here
      cases supply <;> simp only [answer, Op.renumber, reduceCtorEq] at answered replied
      cases answered
      cases replied
      rw [row]
      exact ⟨rfl, same⟩
  | selectReport id =>
      cases here
      cases supply <;> simp only [answer, Op.renumber, reduceCtorEq] at answered replied
      cases answered
      cases replied
      rw [report]
      exact ⟨rfl, same⟩
  | insertJob record =>
      cases here
      cases supply <;> simp only [answer, Op.renumber, row, reduceCtorEq] at answered replied
      cases present : first.jobs record.jobId with
      | none =>
          rw [present] at answered replied
          cases answered
          cases replied
          rw [Store.viewOf_putJob, Store.viewOf_putJob, same]
          exact ⟨rfl, rfl⟩
      | some old =>
          rw [present] at answered replied
          cases answered
          cases replied
          exact ⟨rfl, same⟩
  | updateJob id changes =>
      cases here
      cases supply <;> simp only [answer, Op.renumber, row, reduceCtorEq] at answered replied
      cases present : first.jobs jobId with
      | none =>
          rw [present] at answered replied
          cases answered
          cases replied
          exact ⟨rfl, same⟩
      | some old =>
          rw [present] at answered replied
          cases answered
          cases replied
          rw [Store.viewOf_putJob, Store.viewOf_putJob, same]
          exact ⟨rfl, rfl⟩
  | refreshJob id =>
      cases here
      cases supply <;> simp only [answer, Op.renumber, row, reduceCtorEq] at answered replied
      cases present : first.jobs jobId <;> rw [present] at answered replied <;> cases answered <;>
        cases replied <;> exact ⟨rfl, same⟩
  | insertReport record =>
      cases here
      cases supply <;> simp only [answer, Op.renumber, report, reduceCtorEq] at answered replied
      cases present : first.reports record.jobId with
      | none =>
          rw [present] at answered replied
          cases answered
          cases replied
          rw [Store.viewOf_putReport, Store.viewOf_putReport, same]
          exact ⟨rfl, rfl⟩
      | some old =>
          rw [present] at answered replied
          cases answered
          cases replied
          exact ⟨rfl, same⟩
  | updateReport id changes =>
      cases here
      cases supply <;> simp only [answer, Op.renumber, report, reduceCtorEq] at answered replied
      cases present : first.reports jobId with
      | none =>
          rw [present] at answered replied
          cases answered
          cases replied
          exact ⟨rfl, same⟩
      | some old =>
          rw [present] at answered replied
          cases answered
          cases replied
          rw [Store.viewOf_putReport, Store.viewOf_putReport, same]
          exact ⟨rfl, rfl⟩
  | refreshReport id =>
      cases here
      cases supply <;> simp only [answer, Op.renumber, report, reduceCtorEq] at answered replied
      cases present : first.reports jobId <;> rw [present] at answered replied <;>
        cases answered <;> cases replied <;> exact ⟨rfl, same⟩
  | send message =>
      cases here
      have position : second.queue.messages.length = messages first.queue.messages.length :=
        Met.position.inj met
      cases supply <;> simp only [answer, Op.renumber, reduceCtorEq] at answered replied
      cases answered
      cases replied
      rw [Store.viewOf_enqueue, Store.viewOf_enqueue, same, position]
      exact ⟨rfl, (StoreView.renumber_putMessage _ _ _).symm⟩
  | delete handle =>
      cases supply <;> simp only [answer, Op.renumber, Queue.delete, current handle here there,
        reduceCtorEq] at answered replied
      cases answered
      cases replied
      refine ⟨rfl, ?_⟩
      split
      · refine viewOf_update_alike (fun message => ?_) here there same
        split <;> rfl
      · exact same
  | changeVisibility handle seconds =>
      cases supply <;> simp only [answer, Op.renumber, Queue.changeVisibility,
        current handle here there, reduceCtorEq] at answered replied
      cases answered
      cases replied
      refine ⟨rfl, ?_⟩
      split
      · refine viewOf_update_alike (fun message => ?_) here there same
        split <;> rfl
      · exact same

theorem exec_alike {jobId : JobId} {messages : Equiv.Perm Nat} {op : Op} {outcome : Outcome}
    {first second first' second' : Store} {reply : Except Exn op.Reply}
    {reply' : Except Exn (op.renumber messages).Reply} (here : op.Concerns jobId first)
    (there : (op.renumber messages).Concerns jobId second)
    (same : second.viewOf jobId = (first.viewOf jobId).renumber messages)
    (met : (op.renumber messages).meets second = (op.meets first).renumber messages)
    (called : exec op outcome first = some (reply, first'))
    (also : exec (op.renumber messages) outcome second = some (reply', second')) :
    (Ops.renumbered messages).restore op reply' = reply ∧
      second'.viewOf jobId = (first'.viewOf jobId).renumber messages := by
  cases outcome with
  | done supply => exact answer_alike here there same met called also
  | failed error =>
      simp only [exec, Option.ite_none_right_eq_some] at called also
      obtain ⟨-, called⟩ := called
      obtain ⟨-, also⟩ := also
      cases called
      cases also
      exact ⟨Renaming.restore_error _ _ _, same⟩
  | lost supply error =>
      simp only [exec, Option.ite_none_right_eq_some, Option.map_eq_some_iff] at called also
      obtain ⟨-, ⟨value, left⟩, answered, called⟩ := called
      obtain ⟨-, ⟨value', right⟩, replied, also⟩ := also
      cases called
      cases also
      exact ⟨Renaming.restore_error _ _ _, (answer_alike here there same met answered replied).2⟩

theorem Task.registered_renumber {messages : Equiv.Perm Nat} {op : Op}
    (reply : Except Exn (op.renumber messages).Reply) :
    registered (op.renumber messages) reply =
      registered op ((Ops.renumbered messages).restore op reply) := by
  cases op <;> rfl

/-- A task that resumes in two stores alike. -/
theorem Task.Resumes.alike {jobId : JobId} {messages : Equiv.Perm Nat} {settings : Settings}
    {outcome : Outcome} {first second first' second' : Store} {task next next' : Task}
    (resumes : task.Resumes settings outcome first first' next)
    (also : (task.renumber messages).Resumes settings outcome second second' next')
    (same : second.viewOf jobId = (first.viewOf jobId).renumber messages)
    (concerns : ∀ op, task.pending = some op → op.Concerns jobId first ∧
      (op.renumber messages).Concerns jobId second ∧
      (op.renumber messages).meets second = (op.meets first).renumber messages) :
    next' = next.renumber messages ∧
      second'.viewOf jobId = (first'.viewOf jobId).renumber messages := by
  obtain ⟨op, reply, pending, called⟩ := resumes.exec
  obtain ⟨here, there, met⟩ := concerns op pending
  cases resumes with
  | submit job waiting resume reply called =>
      cases pending
      cases also with
      | submit _ _ _ reply' replied =>
          obtain ⟨rfl, left⟩ := exec_alike here there same met called replied
          exact ⟨congrArg (fun named => Task.submit (job <|> named) _)
            (registered_renumber reply'), left⟩
  | poll id known waiting resume reply called =>
      cases pending
      cases also with
      | poll _ _ _ _ reply' replied =>
          obtain ⟨rfl, left⟩ := exec_alike here there same met called replied
          exact ⟨rfl, left⟩
  | execute received waiting resume reply called =>
      cases pending
      cases also with
      | execute _ _ _ reply' replied =>
          obtain ⟨rfl, left⟩ := exec_alike here there same met called replied
          exact ⟨(working_renumber settings received _).symm, left⟩
  | settle received ended waiting resume reply called =>
      cases pending
      cases also with
      | settle _ _ _ _ reply' replied =>
          obtain ⟨rfl, left⟩ := exec_alike here there same met called replied
          exact ⟨rfl, left⟩

/-! ## What shows in the view -/

/-- What a job sees of an action. -/
inductive Sighting where
  /-- a poll for the job -/
  | asked (index : Nat) (context : RequestContext)
  /-- the delivery of a message of the job to a new task -/
  | delivered (index id : Nat)
  /-- a receive of a message of the job that finds it invalid -/
  | refused (id : Nat)
  /-- a call of a task about the job -/
  | called (index : Nat) (outcome : Outcome) (met : Met)
  /-- the call of a submission that creates the row of the job -/
  | created (index : Nat) (outcome : Outcome) (task : Task)
  | crashed (index : Nat)
  | expired
  | timedOut (id : Nat)
  | redriven (id : Nat)

/-- The operation creates the row of a job. -/
def Op.creates (jobId : JobId) (outcome : Outcome) (store : Store) : Op → Bool
  | .insertJob record =>
      decide (record.jobId = jobId) && outcome.takesEffect && (store.jobs jobId).isNone
  | _ => false

/-- How the job sees a call of a task. -/
def Task.sighting (jobId : JobId) (store : Store) (index : Nat) (outcome : Outcome) (task : Task) :
    Option Sighting :=
  task.pending.bind fun op =>
    if task.subject = some jobId then some (.called index outcome (op.meets store))
    else if op.creates jobId outcome store then some (.created index outcome task)
    else none

/-- How the job sees an action, if it sees it at all. -/
def Action.sighting (env : Environment) (jobId : JobId) (action : Action) (service : Service) :
    Option Sighting :=
  match action with
  | .poll context id => if id = jobId then some (.asked service.tasks.length context) else none
  | .deliver id =>
      if service.store.queue.jobAt id = some jobId then
        if service.store.queue.messages[id]?.any fun message => env.refuses message.body then
          some (.refused id)
        else some (.delivered service.tasks.length id)
      else none
  | .resume index outcome =>
      service.tasks[index]?.bind (Task.sighting jobId service.store index outcome)
  | .crash index =>
      if service.tasks[index]?.bind Task.subject = some jobId then some (.crashed index) else none
  | .expireSnapshot id => if id = jobId then some .expired else none
  | .timeout id => if service.store.queue.jobAt id = some jobId then some (.timedOut id) else none
  | .redrive id => if service.store.queue.jobAt id = some jobId then some (.redriven id) else none
  | _ => none

namespace Sighting

/-- What the job sees, under other numbers. -/
def renumber (numbers : Renumbering) : Sighting → Sighting
  | asked index context => asked (numbers.tasks index) context
  | delivered index id => delivered (numbers.tasks index) (numbers.messages id)
  | refused id => refused (numbers.messages id)
  | called index outcome met =>
      called (numbers.tasks index) outcome (met.renumber numbers.messages)
  | created index outcome task => created (numbers.tasks index) outcome task
  | crashed index => crashed (numbers.tasks index)
  | expired => expired
  | timedOut id => timedOut (numbers.messages id)
  | redriven id => redriven (numbers.messages id)

/-- What a sighting does to the view. -/
inductive Changes (env : Environment) (jobId : JobId) (view : JobView) :
    Sighting → JobView → Prop where
  | asked (index : Nat) (context : RequestContext) :
      Changes env jobId view (.asked index context)
        (view.putTask jobId index
          (.poll jobId view.store.row.isSome (getResearchJobStatus context jobId)))
  | delivered (index id : Nat) (message : QueueMessage) (body : ResearchJobMessage)
      (found : view.store.messages id = some message) (named : message.body = .job body) :
      Changes env jobId view (.delivered index id)
        ({ view with
            store := view.store.update id fun message =>
              { message with receiveCount := message.receiveCount + 1, place := .inFlight }
          }.putTask jobId index
          (.working env.settings (message.delivery id body) (executeResearchPipeline env body)))
  | refused (id : Nat) :
      Changes env jobId view (.refused id) { view with
        store := view.store.update id fun message =>
          { message with receiveCount := message.receiveCount + 1, place := .inFlight } }
  | called (index : Nat) (outcome : Outcome) (task next : Task) (op : Op) (store after : Store)
      (held : store.viewOf jobId = view.store) (own : view.tasks index = some task)
      (pending : task.pending = some op) (concerns : op.Concerns jobId store)
      (resumes : task.Resumes env.settings outcome store after next) :
      Changes env jobId view (.called index outcome (op.meets store))
        ({ view with store := after.viewOf jobId }.putTask jobId index next)
  | created (index : Nat) (outcome : Outcome) (task next : Task) (record : ResearchJobRecord)
      (store after : Store) (held : store.viewOf jobId = view.store)
      (pending : task.pending = some (.insertJob record)) (named : record.jobId = jobId)
      (resumes : task.Resumes env.settings outcome store after next)
      (anonymous : ∀ messages, task.renumber messages = task) :
      Changes env jobId view (.created index outcome task)
        ({ view with store := after.viewOf jobId }.putTask jobId index next)
  | crashed (index : Nat) :
    Changes env jobId view (.crashed index) (view.putTask jobId index .crashed)
  | expired : Changes env jobId view .expired { view with store.snapshot := none }
  | timedOut (id : Nat) :
      Changes env jobId view (.timedOut id) { view with
        store := view.store.update id fun message =>
          if message.place = .inFlight then { message with place := .visible } else message }
  | redriven (id : Nat) :
      Changes env jobId view (.redriven id) { view with
        store := view.store.update id fun message =>
          if message.place = .visible ∧
              view.store.attributes.redrivePolicy.maxReceiveCount ≤ message.receiveCount then
            { message with place := .deadLetter }
          else message }

/-- What follows from a view and a sighting follows from the same view and the
same sighting under other numbers. -/
theorem Changes.alike {env : Environment} {jobId : JobId} {numbers : Renumbering}
    {view first second : JobView} {sighting : Sighting}
    (changes : Changes env jobId view sighting first)
    (also : Changes env jobId (view.renumber numbers) (sighting.renumber numbers) second) :
    second = first.renumber numbers := by
  cases changes with
  | asked index context =>
      cases also
      have kept : (getResearchJobStatus context jobId).rename
          (Ops.renumbered numbers.messages) = getResearchJobStatus context jobId :=
        rename_of_renumber (uses_answering context .status (uses_pollJob jobId)) fun _ =>
          Op.IsPoll.renumber
      rw [JobView.renumber_putTask, Task.renumber, kept]
      rfl
  | delivered index id message body found named =>
      cases also with
      | delivered _ _ message' body' found' named' =>
          rw [JobView.renumber, StoreView.messages_renumber] at found'
          cases found.symm.trans found'
          cases named.symm.trans named'
          rw [JobView.renumber_putTask, Task.working_renumber,
            rename_of_renumber (uses_executeResearchPipeline env body) fun _ pipeline =>
              Op.renumber_of_sparesQueue pipeline.sparesQueue]
          congr 1
          ext1
          · exact (StoreView.renumber_update _ _ _).symm
          · rfl
  | refused id =>
      cases also
      ext1
      · exact (StoreView.renumber_update _ _ _).symm
      · rfl
  | called index outcome task next op store after held own pending concerns resumes =>
      rw [renumber] at also
      generalize met : Met.renumber numbers.messages (op.meets store) = seen at also
      cases also with
      | called _ _ task' next' op' store' after' held' own' pending' concerns' resumes' =>
          rw [JobView.tasks_renumber, own, Option.map_some] at own'
          cases own'
          cases (task.pending_renumber.symm.trans pending').symm.trans (congrArg _ pending)
          obtain ⟨rfl, left⟩ := resumes.alike resumes' (by rw [held', held]; rfl) (by
            intro waiting waits
            cases pending.symm.trans waits
            exact ⟨concerns, concerns', met.symm⟩)
          rw [JobView.renumber_putTask, left]
          rfl
  | created index outcome task next record store after held pending named resumes same =>
      cases also with
      | created _ _ _ next' record' store' after' held' pending' named' resumes' =>
          cases pending.symm.trans pending'
          have also : (task.renumber numbers.messages).Resumes env.settings outcome store' after'
              next' := by
            rwa [same]
          obtain ⟨rfl, left⟩ := resumes.alike also (by rw [held', held]; rfl) (by
            intro waiting waits
            cases pending.symm.trans waits
            exact ⟨named, named, rfl⟩)
          rw [JobView.renumber_putTask, left]
          rfl
  | crashed index =>
      cases also
      rw [JobView.renumber_putTask]
      rfl
  | expired => cases also; rfl
  | timedOut id =>
      cases also
      ext1
      · exact (StoreView.renumber_update _ _ _).symm
      · rfl
  | redriven id =>
      cases also
      ext1
      · exact (StoreView.renumber_update _ _ _).symm
      · rfl

end Sighting

/-! ## Steps in the view -/

theorem Service.tasks_viewOf_eq_none {jobId : JobId} {service : Service} {index : Nat}
    {task : Task}
    (found : service.tasks[index]? = some task) (foreign : task.subject ≠ some jobId) :
    (service.viewOf jobId).tasks index = none := by
  simp [viewOf, found, Option.filter, foreign]

/-- A task stays with its job, and only the creation of a row gives a job to a
task. -/
theorem Task.Resumes.subject {settings : Settings} {outcome : Outcome} {store after : Store}
    {task next : Task} (resumes : task.Resumes settings outcome store after next) :
    (next.subject = task.subject ∧ next.job = task.job) ∨
      ∃ record program, task.pending = some (.insertJob record) ∧
        next = .submit (some record.jobId) program ∧ outcome.takesEffect = true ∧
        store.jobs record.jobId = none := by
  cases resumes with
  | submit job op resume reply called =>
      cases job with
      | some other => exact .inl ⟨rfl, rfl⟩
      | none =>
          cases op with
          | insertJob record =>
              cases reply with
              | error error => exact .inl ⟨rfl, rfl⟩
              | ok value =>
                  obtain ⟨absent, -⟩ := insertJob_ok called
                  obtain ⟨supply, rfl, -⟩ := answer_of_exec_ok called
                  exact .inr ⟨record, _, rfl, rfl, rfl, absent⟩
          | _ => exact .inl ⟨rfl, rfl⟩
  | poll | settle => exact .inl ⟨rfl, rfl⟩
  | execute received op resume reply called =>
      left
      unfold Task.working
      split <;> exact ⟨rfl, rfl⟩

theorem uses_of_unregistered {α : Type} {messages : Equiv.Perm Nat} {program : Coroutine α}
    (unregistered : Unregistered program) :
    program.Uses fun op : Op => op.renumber messages = op := by
  induction program with
  | pure value => exact Program.uses_pure value
  | raise error => exact Program.uses_raise error
  | call op resume ih =>
      cases op with
      | fetchRepositoryContext target =>
          exact Program.uses_call.mpr
            ⟨rfl, fun reply => ih reply (unregistered_fetch.mp unregistered reply)⟩
      | uuid4 =>
          exact Program.uses_call.mpr
            ⟨rfl, fun reply => ih reply (unregistered_uuid4.mp unregistered reply)⟩
      | insertJob record =>
          obtain ⟨-, uses, rest⟩ := unregistered_insertJob.mp unregistered
          refine Program.uses_call.mpr ⟨rfl, fun reply => ?_⟩
          cases reply with
          | ok value => exact (uses value).mono fun _ => Op.IsSubmission.renumber
          | error error => exact ih _ (rest error)
      | _ => cases starts_of_unregistered unregistered

/-- A submission that waits for its row handles no message. -/
theorem Task.May.anonymous {task : Task} {store : Store} {record : ResearchJobRecord}
    (may : task.May store (.insertJob record)) (held : task.Scoped store)
    (messages : Equiv.Perm Nat) : task.renumber messages = task := by
  cases may with
  | start program starts =>
      exact congrArg (Task.submit none)
        (rename_of_renumber (uses_of_unregistered held) fun _ => id)
  | submit id program present submission => cases submission
  | poll id known program poll => cases poll
  | work task received delivery about works =>
      rcases works with pipeline | settling <;> contradiction

theorem Task.subject_of_job {task : Task} {jobId : JobId} (own : task.job = some jobId) :
    task.subject = some jobId := by
  cases task with
  | submit | execute | settle => exact own
  | poll | crashed => cases own

/-- A call that creates no row of the job leaves it to the tasks about the job
to affect it. -/
theorem Task.May.spares {task : Task} {store after : Store} {op : Op} {outcome : Outcome}
    {jobId : JobId} {reply : Except Exn op.Reply} (may : task.May store op)
    (foreign : task.job ≠ some jobId) (creates : op.creates jobId outcome store = false)
    (called : exec op outcome store = some (reply, after)) : store.Spares jobId after := by
  by_cases affects : op.Affects store jobId
  · rcases may.of_affects affects with ⟨record, rfl, named⟩ | ⟨program, rfl, -⟩ |
      ⟨received, held, named, -⟩
    · have still : after = store := by
        cases effective : outcome.takesEffect with
        | false => exact eq_of_not_takesEffect called effective
        | true =>
            have present : store.jobs record.jobId ≠ none := by
              intro absent
              cases named
              simp [Op.creates, effective, absent] at creates
            cases written_of_exec called with
            | unchanged => rfl
            | inserted _ absent => exact absurd absent present
      rw [still]
      exact .refl jobId store
    · exact absurd rfl foreign
    · have own : task.job = some jobId := by
        cases task with
        | execute | settle => cases held; exact congrArg some named
        | submit | poll | crashed => cases held
      exact absurd own foreign
  · exact (written_of_exec called).spares affects

/-- What the job does not see leaves its view as it was. -/
theorem Step.unseen {env : Environment} {jobId : JobId} {action : Action} {service after : Service}
    (moved : Step env service action after) (scope : service.Scoped)
    (unseen : action.sighting env jobId service = none) :
    after.viewOf jobId = service.viewOf jobId := by
  have moves : ∀ {id : Nat} {queue : Queue}, service.store.queue.Moves id queue →
      service.store.queue.jobAt id ≠ some jobId →
        (service.mapStore fun store => store.putQueue queue).viewOf jobId =
          service.viewOf jobId := by
    intro id queue moves foreign
    ext1
    · exact (Store.Spares.of_moves moves foreign).viewOf moves.attributes
    · rfl
  have vacant : ∀ {store : Store} {task : Task} {index : Nat}, task.subject ≠ some jobId →
      service.tasks.length ≤ index →
        (Service.viewOf jobId { service with store }).putTask jobId index task =
          Service.viewOf jobId { service with store } := by
    intro store task index foreign beyond
    apply JobView.putTask_foreign _ foreign
    simp [Service.viewOf, List.getElem?_eq_none beyond]
  have delivery : ∀ {id : Nat}, Action.sighting env jobId (.deliver id) service = none →
      service.store.queue.jobAt id ≠ some jobId := by
    intro id unseen about
    rw [Action.sighting, if_pos about] at unseen
    split at unseen <;> cases unseen
  cases moved with
  | submit context request =>
      rw [Service.viewOf_spawn]
      apply vacant _ (Nat.le_refl _)
      intro same
      cases same
  | poll context id =>
      have other : id ≠ jobId := by simpa [Action.sighting] using unseen
      rw [Service.viewOf_spawn]
      exact vacant (fun same => other (Option.some.inj same)) (Nat.le_refl _)
  | deliver id message body found visible below named =>
      have foreign := delivery unseen
      have about : service.store.queue.jobAt id = some body.jobId := by
        rw [Queue.jobAt_of_found found, named, MessageBody.jobId?]
      have subject : ∀ program : Coroutine Unit,
          (Task.working env.settings (message.delivery id body) program).subject ≠ some jobId := by
        intro program same
        apply foreign
        rw [about]
        cases program <;> exact same
      rw [Service.viewOf_spawn, ← moves (Queue.moves_markReceived _ id) foreign]
      exact vacant (subject _) (Nat.le_refl _)
  | reject id message error found visible below malformed =>
      exact moves (Queue.moves_markReceived _ id) (delivery unseen)
  | resume index outcome task next store found resumes =>
      obtain ⟨op, reply, pending, called⟩ := resumes.exec
      simp only [Action.sighting, found, Option.bind_some, Task.sighting, pending] at unseen
      split at unseen
      · cases unseen
      rename_i foreign
      split at unseen
      · cases unseen
      rename_i creates
      have spares : service.store.Spares jobId store :=
        ((scope.tasks index task found).may pending).spares
          (fun own => foreign (Task.subject_of_job own)) (by simpa using creates) called
      have same : store.viewOf jobId = service.store.viewOf jobId :=
        spares.viewOf (written_of_exec called).grows.attributes
      have still : next.subject ≠ some jobId := by
        rcases resumes.subject with ⟨kept, -⟩ | ⟨record, program, waits, rfl, effective, absent⟩
        · rwa [kept]
        · intro named
          cases pending.symm.trans waits
          cases named
          simp [Op.creates, effective, absent] at creates
      have placed : (service.setTask index next).viewOf jobId = _ :=
        Service.viewOf_setTask next found
      rw [JobView.putTask_foreign (Service.tasks_viewOf_eq_none found foreign) still] at placed
      ext1
      · exact same
      · have kept := congrArg JobView.tasks placed
        exact kept
  | crash index task found live =>
      have foreign : task.subject ≠ some jobId := by
        simpa [Action.sighting, found] using unseen
      rw [Service.viewOf_setTask _ found]
      apply JobView.putTask_foreign (Service.tasks_viewOf_eq_none found foreign)
      intro same
      cases same
  | expireSnapshot id =>
      have other : id ≠ jobId := by simpa [Action.sighting] using unseen
      ext1
      · simp [Service.viewOf, Store.viewOf, Function.update_of_ne (Ne.symm other)]
      · rfl
  | expireCached cacheKey => rfl
  | timeout id => exact moves (Queue.moves_timeout _ id) (by simpa [Action.sighting] using unseen)
  | redrive id => exact moves (Queue.moves_redrive _ id) (by simpa [Action.sighting] using unseen)

/-- What the job sees happens in its view. -/
theorem Step.changes {env : Environment} {jobId : JobId} {action : Action}
    {service after : Service}
    {sighting : Sighting} (moved : Step env service action after) (scope : service.Scoped)
    (sees : action.sighting env jobId service = some sighting) :
    Sighting.Changes env jobId (service.viewOf jobId) sighting (after.viewOf jobId) := by
  have moves : ∀ {id : Nat} {change : QueueMessage → QueueMessage},
      (∀ message, (change message).body = message.body) →
      service.store.queue.jobAt id = some jobId →
      (service.mapStore fun store => store.putQueue (store.queue.update id change)).viewOf jobId =
        { service.viewOf jobId with
          store := (service.viewOf jobId).store.update id change } := by
    intro id change keepsBody about
    ext1
    · exact Store.viewOf_update keepsBody about
    · rfl
  cases moved with
  | submit | expireCached => cases sees
  | reject id message error found visible below malformed =>
      have refused : env.refuses message.body = true := by rw [Environment.refuses, malformed]
      simp only [Action.sighting, Option.ite_none_right_eq_some, found, Option.any_some, refused,
        if_true, Option.some.injEq] at sees
      obtain ⟨about, rfl⟩ := sees
      have received : (service.mapStore fun store =>
          store.putQueue (store.queue.markReceived id)).viewOf jobId = _ :=
        moves (fun _ => rfl) about
      rw [received]
      exact .refused id
  | poll context id =>
      simp only [Action.sighting, Option.ite_none_right_eq_some, Option.some.injEq] at sees
      obtain ⟨rfl, rfl⟩ := sees
      rw [Service.viewOf_spawn]
      exact .asked _ _
  | deliver id message body found visible below named accepted =>
      have read := Environment.readBody_eq_job_iff.mpr ⟨named, accepted⟩
      have taken : env.refuses message.body = false := by rw [Environment.refuses, read]
      simp only [Action.sighting, Option.ite_none_right_eq_some, found, Option.any_some, taken,
        Bool.false_eq_true, if_false, Option.some.injEq] at sees
      obtain ⟨about, rfl⟩ := sees
      have present : (service.viewOf jobId).store.messages id = some message :=
        (Store.messages_viewOf about).trans found
      have received : (service.mapStore fun store =>
          store.putQueue (store.queue.markReceived id)).viewOf jobId = _ :=
        moves (fun _ => rfl) about
      rw [Service.viewOf_spawn, received]
      exact .delivered service.tasks.length id message body present named
  | resume index outcome task next store found resumes =>
      obtain ⟨op, reply, pending, called⟩ := resumes.exec
      simp only [Action.sighting, found, Option.bind_some, Task.sighting, pending] at sees
      have placed : (Service.viewOf jobId { service.setTask index next with store := store }) =
          { service.viewOf jobId with store := store.viewOf jobId }.putTask jobId index next := by
        have set : (service.setTask index next).viewOf jobId = _ :=
          Service.viewOf_setTask next found
        have kept := congrArg JobView.tasks set
        ext1
        · rfl
        · exact kept
      rw [placed]
      split at sees
      · rename_i subject
        cases sees
        have concerns := ((scope.tasks index task found).may pending).concerns subject
        exact .called index outcome task next op service.store store rfl
          (Service.tasks_viewOf.mpr ⟨found, subject⟩) pending concerns resumes
      · split at sees
        · rename_i creates
          cases sees
          cases op with
          | insertJob record =>
              simp only [Op.creates, Bool.and_eq_true, decide_eq_true_eq] at creates
              exact .created index outcome task next record service.store store rfl pending
                creates.1.1 resumes
                (((scope.tasks index task found).may pending).anonymous
                  (scope.tasks index task found))
          | _ => cases creates
        · cases sees
  | crash index task found live =>
      simp only [Action.sighting, Option.ite_none_right_eq_some, Option.some.injEq] at sees
      obtain ⟨-, rfl⟩ := sees
      rw [Service.viewOf_setTask _ found]
      exact .crashed index
  | expireSnapshot id =>
      simp only [Action.sighting, Option.ite_none_right_eq_some, Option.some.injEq] at sees
      obtain ⟨rfl, rfl⟩ := sees
      have dropped : (service.mapStore (·.dropSnapshot id)).viewOf id =
          { service.viewOf id with store.snapshot := none } := by
        simp [Service.viewOf, Store.viewOf]
      rw [dropped]
      exact .expired
  | timeout id =>
      simp only [Action.sighting, Option.ite_none_right_eq_some, Option.some.injEq] at sees
      obtain ⟨about, rfl⟩ := sees
      have timedOut : (service.mapStore fun store =>
          store.putQueue (store.queue.timeout id)).viewOf jobId = _ :=
        moves (fun message => by split <;> rfl) about
      rw [timedOut]
      exact .timedOut id
  | redrive id =>
      simp only [Action.sighting, Option.ite_none_right_eq_some, Option.some.injEq] at sees
      obtain ⟨about, rfl⟩ := sees
      have redriven : (service.mapStore fun store =>
          store.putQueue (store.queue.redrive id)).viewOf jobId = _ :=
        moves (fun message => by split <;> rfl) about
      rw [redriven]
      exact .redriven id

/-! ## Isolation -/

namespace Isolation

/-- The view of a job unwinds the runs of the service, under any numbers. -/
theorem unwinding (env : Environment) (jobId : JobId) (numbers : Renumbering) :
    Unwinding (Service.step env) (Action.sighting env jobId) Service.Scoped
      (fun sighting other => sighting.renumber numbers = other)
      fun first second => second.viewOf jobId = (first.viewOf jobId).renumber numbers where
  preserved scope moved := (Service.step_cases moved).scoped scope
  unseen_left scope moved unseen same := by
    rwa [(Service.step_cases moved).unseen scope unseen]
  unseen_right scope moved unseen same := by
    rwa [(Service.step_cases moved).unseen scope unseen]
  consistent here there same sees also similar moved went := by
    have changes := (Service.step_cases moved).changes here sees
    have changed := (Service.step_cases went).changes there also
    rw [same, ← similar] at changed
    exact changes.alike changed

/-- No job has anything before the first request. -/
theorem viewOf_initial (settings : Settings) (dlqArn : String)
    (aiCache otherCache : String → Option CachedPayload) (jobId : JobId) (numbers : Renumbering) :
    (Service.initial settings dlqArn otherCache).viewOf jobId =
      ((Service.initial settings dlqArn aiCache).viewOf jobId).renumber numbers := by
  ext1
  · ext1
    case messages =>
      funext id
      simp [Service.viewOf, Store.viewOf, Service.initial, JobView.renumber, StoreView.renumber]
    all_goals rfl
  · funext index
    simp [Service.viewOf, Service.initial, JobView.renumber]

/-- In two runs in which the same happens to a job, whatever happens to other
jobs, its row, its report, its snapshot, its messages and the tasks that work
on it or poll it end the same, up to the numbers of its tasks and messages.
The entries of the AI cache that the job reads are part of what happens to
it. -/
theorem job_isolated (env : Environment) (dlqArn : String)
    (aiCache otherCache : String → Option CachedPayload) (actions others : List Action)
    (service other : Service) (jobId : JobId) (numbers : Renumbering)
    (ran : run (Service.step env) actions (Service.initial env.settings dlqArn aiCache) =
      some service)
    (went : run (Service.step env) others (Service.initial env.settings dlqArn otherCache) =
      some other)
    (seenAlike : (seen (Service.step env) (Action.sighting env jobId) actions
        (Service.initial env.settings dlqArn aiCache)).map (Sighting.renumber numbers) =
      seen (Service.step env) (Action.sighting env jobId) others
        (Service.initial env.settings dlqArn otherCache)) :
    other.viewOf jobId = (service.viewOf jobId).renumber numbers := by
  have same := viewOf_initial env.settings dlqArn aiCache otherCache jobId numbers
  exact (unwinding env jobId numbers).runs_relabelled (.initial _ _ _) (.initial _ _ _) same ran
    went seenAlike

/-- The ends of the calls of a submission that creates and queues `job-2`. -/
def neighbour : List Outcome :=
  [.done (.context Sample.rawContext), .done (.uuid "job-2"), .ok, .ok, .done (.time Sample.noon),
    .ok, .ok, .done (.time Sample.noon), .ok]

/-- `job-1` has the service to itself. -/
def alone : List Action :=
  Sample.submission ++ [.deliver 0, .resume 1 .ok]

/-- The same happens to `job-1` after another job was submitted. -/
def accompanied : List Action :=
  .submit Sample.context Sample.request :: Sample.calls 0 neighbour ++
    .submit Sample.context Sample.request :: Sample.calls 1 Sample.queued ++
      [.deliver 1, .resume 2 .ok, .timeout 0, .expireSnapshot "job-2"]

/-- The numbers of `job-1` beside the other job: one more each. -/
def later : Renumbering where
  tasks := Equiv.swap 0 1 * Equiv.swap 1 2
  messages := Equiv.swap 0 1

theorem job_isolated_neighbour :
    ∃ service other, run (Service.step Sample.environment) alone Sample.cold = some service ∧
      run (Service.step Sample.environment) accompanied Sample.cold = some other ∧
      other.viewOf "job-1" = (service.viewOf "job-1").renumber later := by
  refine ⟨_, _, Sample.ran_after (by decide +kernel), Sample.ran_after (by decide +kernel), ?_⟩
  exact job_isolated Sample.environment "arn:dlq" (fun _ => none) (fun _ => none) alone accompanied
    _ _ "job-1" later (Sample.ran_after (by decide +kernel)) (Sample.ran_after (by decide +kernel))
    rfl

end Isolation

end ResearchTool
