import ResearchTool.Journal

/-!
# Terms between the tasks of the service

Terms fix an invariant of the stores, what a task may rely on, which calls the
condition of a run lets through, and what every call owes the others.  They
may look at the calls that the task has made.  If every program keeps the
terms on its own and the condition enforces them between the tasks, every
state of a run that meets the condition keeps them.
-/

namespace ResearchTool

open Process

structure Terms where
  invariant : Store → Prop
  /-- what the others may do between two calls of a task -/
  rely : Role → Trace → Store → Store → Prop
  /-- which calls the condition of the run lets through -/
  allows : Role → Trace → Op → Outcome → Store → Prop
  /-- what a call owes the others -/
  guarantee : Role → Store × Trace → Store × Trace → Prop
  /-- what is asked of an answer -/
  answers : Role → Answer → Prop
  rely_refl : ∀ role trace store, rely role trace store store
  rely_trans : ∀ {role trace first second third}, rely role trace first second →
    rely role trace second third → rely role trace first third

/-- The condition of a run that only looks at the calls that are made. -/
def callsAllowed (allows : Role → Trace → Op → Outcome → Store → Bool) (action : Action)
    (state : Service × Journal) : Bool :=
  match action with
  | .resume index outcome =>
      state.1.tasks[index]?.all fun task =>
        task.pending.all fun op => allows task.role (state.2 index) op outcome state.1.store
  | _ => true

theorem callsAllowed_resume {allows : Role → Trace → Op → Outcome → Store → Bool} {index : Nat}
    {outcome : Outcome} {service : Service} {journal : Journal} {task : Task} {op : Op}
    (permitted : callsAllowed allows (.resume index outcome) (service, journal))
    (found : service.tasks[index]? = some task) (pending : task.pending = some op) :
    allows task.role (journal index) op outcome service.store = true := by
  simpa [callsAllowed, found, pending] using permitted

/-- What the environment does to the stores on its own. -/
inductive Store.Drifts (store : Store) : Store → Prop where
  | expireSnapshot (jobId : JobId) : Drifts store (store.dropSnapshot jobId)
  | expireCached (cacheKey : String) : Drifts store (store.dropCached cacheKey)
  | queue (queue : Queue) (id : Nat) (moves : store.queue.Moves id queue) :
      Drifts store (store.putQueue queue)

namespace Terms

variable (terms : Terms)

/-- The terms as the protocol of one role. -/
def protocol (role : Role) : Protocol Ops Exn (Store × Trace) where
  invariant state := terms.invariant state.1
  rely before after := after.2 = before.2 ∧ terms.rely role before.2 before.1 after.1
  effect op before reply after :=
    after.2 = before.2 ++ [⟨op, reply⟩] ∧
      ∃ outcome, terms.allows role before.2 op outcome before.1 ∧
      exec op outcome before.1 = some (reply, after.1)
  guarantee := terms.guarantee role
  rely_refl state := ⟨rfl, terms.rely_refl role state.2 state.1⟩
  rely_trans := by
    rintro first second third ⟨same, earlier⟩ ⟨also, later⟩
    rw [same] at later
    exact ⟨also.trans same, terms.rely_trans earlier later⟩

/-- What is asked of the end of a task. -/
def Ended (role : Role) (result : Except Exn (Option Answer)) (_ : Store × Trace) : Prop :=
  ∀ answer, result = .ok (some answer) → terms.answers role answer

/-- A task keeps the terms from a state on. -/
def Keeps (settings : Settings) (task : Task) (state : Store × Trace) : Prop :=
  (task.body settings).Safe (terms.protocol task.role) (terms.Ended task.role) state

/-- What holds in every state of a run under the terms. -/
structure Kept (settings : Settings) (state : Service × Journal) : Prop where
  invariant : terms.invariant state.1.store
  keeps : ∀ (index : Nat) (task : Task), state.1.tasks[index]? = some task →
    terms.Keeps settings task (state.1.store, state.2 index)
  ends : ∀ (index : Nat) (task : Task), state.1.tasks[index]? = some task → task.Ends settings
  scope : state.1.Scoped
  recorded : state.1.Recorded state.2

/-- Every program keeps the terms, and a run that meets the condition keeps
them between the programs. -/
structure Enforced (env : Environment) (permits : Action → Service × Journal → Bool) : Prop where
  submits : ∀ context request store, terms.invariant store →
    (submitResearchJob env context request).Safe (terms.protocol .submitter) (fun result _ =>
      ∀ answer, result = .ok answer → terms.answers .submitter answer) (store, [])
  polls : ∀ context jobId store, terms.invariant store →
    (getResearchJobStatus context jobId).Safe (terms.protocol (.poller jobId)) (fun result _ =>
      ∀ answer, result = .ok answer → terms.answers (.poller jobId) answer) (store, [])
  works : ∀ received store, terms.invariant store →
    (handleReceived env received).Safe (terms.protocol (.worker received)) (fun _ _ => True)
      (store, [])
  drifts : ∀ {store after}, store.Drifts after → terms.invariant store →
    terms.invariant after ∧ ∀ role trace, terms.rely role trace store after
  calls : ∀ {index outcome service journal task op},
    terms.Kept env.settings (service, journal) →
      permits (.resume index outcome) (service, journal) → service.tasks[index]? = some task →
    task.pending = some op → terms.allows task.role (journal index) op outcome service.store
  others : ∀ {index outcome service journal task op reply after other beside},
    terms.Kept env.settings (service, journal) →
      permits (.resume index outcome) (service, journal) → service.tasks[index]? = some task →
    task.pending = some op → exec op outcome service.store = some (reply, after) →
    other ≠ index → service.tasks[other]? = some beside → beside.isLive = true →
    terms.rely beside.role (journal other) service.store after

variable {terms} {settings : Settings}

/-- A task that has ended keeps the terms whatever happens. -/
theorem Keeps.of_finished {task : Task} {state now : Store × Trace}
    (keeps : terms.Keeps settings task state) (kept : terms.invariant state.1)
    (ends : task.Ends settings) (finished : task.isLive = false) :
    terms.Keeps settings task now := by
  obtain ⟨outcome, ended⟩ := ends finished
  rw [Keeps, ended] at keeps ⊢
  cases outcome with
  | ok value =>
      have holds := Program.safe_pure.mp keeps state kept ((terms.protocol task.role).rely_refl _)
      exact Program.safe_pure.mpr fun _ _ _ => holds
  | error error =>
      apply Program.safe_raise.mpr
      intro later _ _ answer impossible
      cases impossible

/-- A task that is not resumed keeps the terms. -/
theorem Keeps.move {task : Task} {before after : Store} {trace : Trace}
    (keeps : terms.Keeps settings task (before, trace)) (kept : terms.invariant before)
    (ends : task.Ends settings)
    (moved : task.isLive = true → terms.rely task.role trace before after) :
    terms.Keeps settings task (after, trace) := by
  by_cases live : task.isLive = true
  · exact keeps.interfere ⟨rfl, moved live⟩
  · exact keeps.of_finished kept ends (Bool.eq_false_iff.mpr live)

/-- The answer of a request as the end of its task. -/
theorem safe_answered {role : Role} {program : Coroutine Answer} {store : Store} {trace : Trace}
    (kept : terms.invariant store)
    (safe : program.Safe (terms.protocol role) (fun result _ =>
      ∀ answer, result = .ok answer → terms.answers role answer) (store, trace)) :
    (program.bind fun answer => .pure (some answer)).Safe (terms.protocol role)
      (terms.Ended role) (store, trace) := by
  apply safe.bind kept
  · intro answer now _ holds
    apply Program.safe_pure.mpr
    intro later _ _ other same
    cases same
    exact holds answer rfl
  · intro error now _ _ answer impossible
    cases impossible

/-- An endpoint answers with what its body returned, or with a problem. -/
theorem safe_answering {α : Type} {role : Role} {context : RequestContext} {respond : α → Answer}
    {body : Coroutine α} {fact : α → Prop} {store : Store} {trace : Trace}
    (kept : terms.invariant store)
    (safe : body.Safe (terms.protocol role) (fun result _ =>
      ∀ value, result = .ok value → fact value) (store, trace)) :
    (answering context respond body).Safe (terms.protocol role) (fun result _ =>
      ∀ answer, result = .ok answer → (∃ value, answer = respond value ∧ fact value) ∨
        ∃ error, answer = .problem (exceptionResponse context error)) (store, trace) := by
  have attempted : body.attempt.Safe (terms.protocol role) (fun result _ =>
      ∀ outcome, result = .ok outcome → ∀ value, outcome = .ok value → fact value)
      (store, trace) := by
    apply Program.Safe.attempt
    apply safe.weaken
    intro outcome now _ holds other same
    cases same
    exact holds
  apply attempted.bind kept
  · intro outcome now _ holds
    cases outcome with
    | ok value =>
        apply Program.safe_pure.mpr
        intro later _ _ answer same
        cases same
        exact .inl ⟨value, rfl, holds _ rfl value rfl⟩
    | error error =>
        apply Program.safe_pure.mpr
        intro later _ _ answer same
        cases same
        exact .inr ⟨error, rfl⟩
  · intro error now _ _ answer impossible
    cases impossible

/-! ## Calls -/

section

variable {role : Role} {α β : Type} {state : Store × Trace}
    {post : Except Exn α → Store × Trace → Prop}

/-- One call, and what its reply leads to. -/
theorem safe_await {op : Op} {next : op.Reply → Coroutine α} {store : Store} {trace : Trace}
    (called : ∀ now reply after outcome, terms.invariant now → terms.rely role trace store now →
      terms.allows role trace op outcome now → exec op outcome now = some (reply, after) →
      terms.invariant after ∧ terms.guarantee role (now, trace) (after, trace ++ [⟨op, reply⟩]))
    (returned : ∀ value now after outcome, terms.invariant now → terms.rely role trace store now →
      terms.allows role trace op outcome now → exec op outcome now = some (.ok value, after) →
      terms.invariant after →
      (next value).Safe (terms.protocol role) post (after, trace ++ [⟨op, .ok value⟩]))
    (raised : ∀ error now after outcome, terms.invariant now → terms.rely role trace store now →
      terms.allows role trace op outcome now → exec op outcome now = some (.error error, after) →
      terms.invariant after →
      (Program.raise error).Safe (terms.protocol role) post
        (after, trace ++ [⟨op, .error error⟩])) :
    ((await op).bind next).Safe (terms.protocol role) post (store, trace) := by
  apply Program.Safe.perform_bind
  rintro ⟨now, seen⟩ reply ⟨after, noted⟩ kept ⟨rfl, reached⟩ ⟨rfl, outcome, allowed, replied⟩
  obtain ⟨keptAfter, owed⟩ := called now reply after outcome kept reached allowed replied
  refine ⟨keptAfter, owed, ?_, ?_⟩
  · rintro value rfl
    exact returned value now after outcome kept reached allowed replied keptAfter
  · rintro error rfl
    exact raised error now after outcome kept reached allowed replied keptAfter

/-- The call keeps the terms, and a fact about the state besides. -/
def Preserves (terms : Terms) (role : Role) (fact : Store → Trace → Prop) (op : Op) : Prop :=
  ∀ trace before outcome reply after, terms.invariant before → fact before trace →
    terms.allows role trace op outcome before → exec op outcome before = some (reply, after) →
    terms.invariant after ∧ terms.guarantee role (before, trace) (after, trace ++ [⟨op, reply⟩]) ∧
      fact after (trace ++ [⟨op, reply⟩])

/-- What the others do leaves the fact. -/
def Stable (terms : Terms) (role : Role) (fact : Store → Trace → Prop) : Prop :=
  ∀ trace before after, terms.rely role trace before after → fact before trace → fact after trace

variable {fact : Store → Trace → Prop} {store : Store} {trace : Trace}

/-- A call that preserves a fact, and what follows from it. -/
theorem safe_preserved (fact : Store → Trace → Prop) {op : Op} {next : op.Reply → Coroutine α}
    (preserves : terms.Preserves role fact op) (stable : terms.Stable role fact)
    (holds : fact store trace)
    (ends : ∀ error now seen, fact now seen → post (.error error) (now, seen))
    (returned : ∀ value now after outcome, terms.invariant after → fact now trace →
      terms.allows role trace op outcome now → exec op outcome now = some (.ok value, after) →
      fact after (trace ++ [⟨op, .ok value⟩]) →
      (next value).Safe (terms.protocol role) post (after, trace ++ [⟨op, .ok value⟩])) :
    ((await op).bind next).Safe (terms.protocol role) post (store, trace) := by
  apply safe_await
  · intro now reply after outcome kept reached allowed called
    obtain ⟨keptAfter, owed, -⟩ := preserves trace now outcome reply after kept
      (stable trace store now reached holds) allowed called
    exact ⟨keptAfter, owed⟩
  · intro value now after outcome kept reached allowed called keptAfter
    have held := stable trace store now reached holds
    obtain ⟨-, -, still⟩ := preserves trace now outcome _ after kept held allowed called
    exact returned value now after outcome keptAfter held allowed called still
  · intro error now after outcome kept reached allowed called _
    have held := stable trace store now reached holds
    obtain ⟨-, -, still⟩ := preserves trace now outcome _ after kept held allowed called
    apply Program.safe_raise.mpr
    rintro ⟨later, seen⟩ _ ⟨rfl, moved⟩
    exact ends error later _ (stable _ _ _ moved still)

/-- A program of calls that preserve a fact. -/
theorem safe_of_preserves {program : Coroutine α} (uses : program.Uses (terms.Preserves role fact))
    (stable : terms.Stable role fact) (holds : fact state.1 state.2)
    (ends : ∀ result now trace, fact now trace → post result (now, trace)) :
    program.Safe (terms.protocol role) post state := by
  induction program generalizing state with
  | pure value =>
      apply Program.safe_pure.mpr
      rintro ⟨now, seen⟩ _ ⟨rfl, reached⟩
      exact ends _ now _ (stable _ _ _ reached holds)
  | raise error =>
      apply Program.safe_raise.mpr
      rintro ⟨now, seen⟩ _ ⟨rfl, reached⟩
      exact ends _ now _ (stable _ _ _ reached holds)
  | call op resume ih =>
      obtain ⟨preserves, rest⟩ := Program.uses_call.mp uses
      apply Program.safe_call.mpr
      rintro ⟨now, seen⟩ reply ⟨after, noted⟩ kept ⟨rfl, reached⟩ ⟨rfl, outcome, allowed, called⟩
      obtain ⟨keptAfter, owed, still⟩ := preserves _ now outcome reply after kept
        (stable _ _ _ reached holds) allowed called
      exact ⟨keptAfter, owed, ih reply (rest reply) still⟩

/-- A program of calls that preserve a fact, and then another program. -/
theorem safe_bind_of_preserves (fact : Store → Trace → Prop) {program : Coroutine β}
    {next : β → Coroutine α} {given : β → Prop} (uses : program.Uses (terms.Preserves role fact))
    (returns : program.Returns given) (stable : terms.Stable role fact)
    (kept : terms.invariant store) (holds : fact store trace)
    (ends : ∀ error now seen, fact now seen → post (.error error) (now, seen))
    (rest : ∀ value now seen, terms.invariant now → fact now seen → given value →
      (next value).Safe (terms.protocol role) post (now, seen)) :
    (program.bind next).Safe (terms.protocol role) post (store, trace) := by
  have safe : program.Safe (terms.protocol role) (fun _ now => fact now.1 now.2) (store, trace) :=
    safe_of_preserves uses stable holds fun _ _ _ held => held
  apply (safe.returning returns).bind kept
  · rintro value ⟨now, seen⟩ keptNow ⟨held, told⟩
    exact rest value now seen keptNow held (told value rfl)
  · rintro error ⟨now, seen⟩ _ ⟨held, -⟩
    exact ends error now seen held

/-- A call that keeps the terms wherever it is made. -/
def Harmless (terms : Terms) (role : Role) : Op → Prop :=
  terms.Preserves role fun _ _ => True

/-- A harmless call, in a program whose exceptions may be anything. -/
theorem safe_harmless {op : Op} {next : op.Reply → Coroutine α}
    (harmless : terms.Harmless role op) (ends : ∀ error now, post (.error error) now)
    (returned : ∀ value now after outcome, terms.invariant after →
      terms.allows role trace op outcome now → exec op outcome now = some (.ok value, after) →
      (next value).Safe (terms.protocol role) post (after, trace ++ [⟨op, .ok value⟩])) :
    ((await op).bind next).Safe (terms.protocol role) post (store, trace) :=
  safe_preserved _ harmless (fun _ _ _ _ _ => trivial) trivial (fun error now seen _ =>
    ends error (now, seen)) fun value now after outcome kept _ allowed called _ =>
      returned value now after outcome kept allowed called

/-- A program of harmless calls keeps the terms. -/
theorem safe_of_uses {program : Coroutine α} (uses : program.Uses (terms.Harmless role))
    (ends : ∀ result now, post result now) :
    program.Safe (terms.protocol role) post state :=
  safe_of_preserves uses (fun _ _ _ _ _ => trivial) trivial fun result now trace _ =>
    ends result (now, trace)

end

end Terms

/-! ## Steps -/

namespace Terms

variable {terms : Terms} {settings : Settings} {service : Service} {journal : Journal}

/-- A new task keeps the terms from its start. -/
theorem Kept.spawn (kept : terms.Kept settings (service, journal)) {task : Task}
    (keeps : terms.Keeps settings task (service.store, [])) (ends : task.Ends settings)
    (scope : (service.spawn [task]).Scoped) (recorded : (service.spawn [task]).Recorded journal) :
    terms.Kept settings (service.spawn [task], journal) := by
  constructor
  · exact kept.invariant
  · intro index found member
    rcases Service.spawned_cases member with old | ⟨rfl, rfl⟩
    · exact kept.keeps index found old
    · have fresh : journal service.tasks.length = [] := kept.recorded.fresh _ (Nat.le_refl _)
      simp only [fresh]
      exact keeps
  · intro index found member
    rcases Service.spawned_cases member with old | ⟨-, rfl⟩
    · exact kept.ends index found old
    · exact ends
  · exact scope
  · exact recorded

/-- The environment leaves every task its terms. -/
theorem Kept.drift (kept : terms.Kept settings (service, journal)) {store : Store}
    (invariant : terms.invariant store)
    (relied : ∀ role trace, terms.rely role trace service.store store)
    (scope : Service.Scoped { service with store := store }) :
    terms.Kept settings ({ service with store := store }, journal) := by
  constructor
  · exact invariant
  · intro index task found
    exact (kept.keeps index task found).move kept.invariant (kept.ends index task found)
      fun _ => relied _ _
  · exact kept.ends
  · exact scope
  · exact ⟨kept.recorded.fresh, kept.recorded.registered⟩

/-- A task that is replaced, while the others may rely on what happens. -/
theorem Kept.replace (kept : terms.Kept settings (service, journal)) {index : Nat} {task : Task}
    {store : Store} {trace : Trace} (invariant : terms.invariant store)
    (keeps : terms.Keeps settings task (store, trace)) (ends : task.Ends settings)
    (others : ∀ other beside, other ≠ index → service.tasks[other]? = some beside →
      beside.isLive = true → terms.rely beside.role (journal other) service.store store)
    (scope : Service.Scoped { service.setTask index task with store := store })
    (recorded : Service.Recorded { service.setTask index task with store := store }
      (Function.update journal index trace)) :
    terms.Kept settings ({ service.setTask index task with store := store },
      Function.update journal index trace) := by
  constructor
  · exact invariant
  · intro other found member
    rcases Service.replaced_cases member with ⟨rfl, rfl⟩ | ⟨different, old⟩
    · simp only [Function.update_self]
      exact keeps
    · simp only [Function.update_of_ne different]
      exact (kept.keeps other found old).move kept.invariant (kept.ends other found old)
        (others other found different old)
  · intro other found member
    rcases Service.replaced_cases member with ⟨-, rfl⟩ | ⟨-, old⟩
    · exact ends
    · exact kept.ends other found old
  · exact scope
  · exact recorded

end Terms

namespace Terms.Enforced

variable {terms : Terms} {env : Environment} {permits : Action → Service × Journal → Bool}
  (enforced : terms.Enforced env permits) {service after : Service} {journal : Journal}

include enforced

/-- A call that is let through does what its task owes the others. -/
theorem call {index : Nat} {outcome : Outcome} {task next : Task} {store : Store}
    (kept : terms.Kept env.settings (service, journal))
    (permitted : permits (.resume index outcome) (service, journal))
    (found : service.tasks[index]? = some task)
    (resumes : task.Resumes env.settings outcome service.store store next) :
    ∃ (op : Op) (reply : Except Exn op.Reply), task.pending = some op ∧
      exec op outcome service.store = some (reply, store) ∧ terms.invariant store ∧
      terms.guarantee task.role (service.store, journal index)
        (store, journal index ++ [⟨op, reply⟩]) ∧
      terms.Keeps env.settings next (store, journal index ++ [⟨op, reply⟩]) := by
  obtain ⟨op, resume, reply, pending, body, remaining, role, called⟩ := resumes.body
  have keeps := kept.keeps index task found
  rw [Keeps, body] at keeps
  have allowed := enforced.calls kept permitted found pending
  obtain ⟨invariant, owed, rest⟩ := Program.safe_call.mp keeps (service.store, journal index) reply
    (store, journal index ++ [⟨op, reply⟩]) kept.invariant ((terms.protocol task.role).rely_refl _)
    ⟨rfl, outcome, allowed, called⟩
  refine ⟨op, reply, pending, called, invariant, owed, ?_⟩
  rw [Keeps, remaining, role]
  exact rest

/-- Every step that meets the condition keeps the terms. -/
theorem step {action : Action} (kept : terms.Kept env.settings (service, journal))
    (permitted : permits action (service, journal)) (moved : Step env service action after) :
    terms.Kept env.settings (after, journal.note action service) := by
  have worked : ∀ (received : ReceivedMessage) (store : Store), terms.invariant store →
      terms.Keeps env.settings
        (.working env.settings received (executeResearchPipeline env received.body))
          (store, []) := by
    intro received store invariant
    rw [Keeps, Task.body_working, Task.role_working]
    apply (enforced.works received store invariant).bind invariant
    · intro _ _ _ _
      apply Program.safe_pure.mpr
      intro _ _ _ answer impossible
      cases impossible
    · intro _ _ _ _ answer impossible
      cases impossible
  have scope := moved.scoped kept.scope
  have recorded := moved.recorded kept.recorded
  cases moved with
  | submit context request =>
      apply kept.spawn _ (Task.ends_submit _ _ _) scope recorded
      exact safe_answered kept.invariant
        (enforced.submits context request service.store kept.invariant)
  | poll context jobId =>
      apply kept.spawn _ (Task.ends_poll _ _ _ _) scope recorded
      exact safe_answered kept.invariant
        (enforced.polls context jobId service.store kept.invariant)
  | deliver id message body found visible below named =>
      obtain ⟨invariant, relied⟩ := enforced.drifts
        (.queue _ id (Queue.moves_markReceived service.store.queue id)) kept.invariant
      apply (kept.drift invariant relied (kept.scope.received id)).spawn _
        (Task.ends_working _ _ _) scope recorded
      exact worked (message.delivery id body) _ invariant
  | reject id message error found visible below malformed =>
      obtain ⟨invariant, relied⟩ := enforced.drifts
        (.queue _ id (Queue.moves_markReceived service.store.queue id)) kept.invariant
      exact kept.drift invariant relied scope
  | resume index outcome task next store found resumes =>
      obtain ⟨op, reply, pending, called, invariant, -, keeps⟩ :=
        enforced.call kept permitted found resumes
      rw [Journal.note_of_resume found pending called] at recorded ⊢
      apply kept.replace invariant keeps resumes.ends _ scope recorded
      intro other beside different member live
      exact enforced.others kept permitted found pending called different member live
  | crash index task found live =>
      have replaced : terms.Kept env.settings
          ({ service.setTask index .crashed with store := service.store },
            Function.update journal index (journal index)) := by
        apply kept.replace kept.invariant _ (Task.ends_crashed _)
        · intro other beside _ _ _
          exact terms.rely_refl _ _ _
        · exact scope
        · rw [Function.update_eq_self]
          exact recorded
        · apply Program.safe_pure.mpr
          intro _ _ _ answer impossible
          cases impossible
      rw [Function.update_eq_self] at replaced
      exact replaced
  | expireSnapshot jobId =>
      obtain ⟨invariant, relied⟩ := enforced.drifts (.expireSnapshot jobId) kept.invariant
      exact kept.drift invariant relied scope
  | expireCached cacheKey =>
      obtain ⟨invariant, relied⟩ := enforced.drifts (.expireCached cacheKey) kept.invariant
      exact kept.drift invariant relied scope
  | timeout id =>
      obtain ⟨invariant, relied⟩ := enforced.drifts
        (.queue _ id (Queue.moves_timeout service.store.queue id)) kept.invariant
      exact kept.drift invariant relied scope
  | redrive id =>
      obtain ⟨invariant, relied⟩ := enforced.drifts
        (.queue _ id (Queue.moves_redrive service.store.queue id)) kept.invariant
      exact kept.drift invariant relied scope

omit enforced in
/-- The service before its first request. -/
theorem kept_initial {dlqArn : String} {aiCache : String → Option CachedPayload}
    (invariant : terms.invariant (Service.initial env.settings dlqArn aiCache).store) :
    terms.Kept env.settings (Service.initial env.settings dlqArn aiCache).unnoted where
  invariant := invariant
  keeps _ _ found := by cases found
  ends _ _ found := by cases found
  scope := .initial _ _ _
  recorded := {
    fresh := fun _ _ => rfl
    registered := fun _ _ _ found => by cases found
  }

/-- The terms are kept in every state of a run that meets the condition. -/
theorem run {dlqArn : String} {aiCache : String → Option CachedPayload}
    (invariant : terms.invariant (Service.initial env.settings dlqArn aiCache).store)
    {actions : List Action} {final : Service × Journal}
    (ran : runWithin (Service.noted env) permits actions
      (Service.initial env.settings dlqArn aiCache).unnoted = some final) :
    terms.Kept env.settings final := by
  apply runWithin_induction (terms.Kept env.settings) _ (kept_initial invariant) ran
  rintro action ⟨service, journal⟩ ⟨after, noted⟩ permitted moved kept
  obtain ⟨stepped, rfl⟩ := noting_eq_some_iff.mp moved
  exact enforced.step kept permitted (Service.step_cases stepped)

end Terms.Enforced

end ResearchTool
