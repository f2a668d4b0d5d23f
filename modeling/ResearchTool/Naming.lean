import ResearchTool.Canonical
import ResearchTool.Journal

/-!
# What a job is about

A job is about the repository that its row names.  The URL of its message leads the
worker to the same repository if the URL that was submitted has no second `.git`
suffix; so every task of a job fetches the repository of its row.
-/

namespace ResearchTool

open Process

namespace Naming

/-- Rows stay, and keep the names of their repositories. -/
def KeepsNames (before after : Store) : Prop :=
  ∀ jobId row, before.jobs jobId = some row →
    ∃ kept, after.jobs jobId = some kept ∧ kept.owner = row.owner ∧ kept.repo = row.repo

theorem keepsNames_of_written {op : Op} {store after : Store} (written : Written store op after) :
    KeepsNames store after := by
  intro jobId row stored
  cases written with
  | inserted record absent =>
      have foreign : jobId ≠ record.jobId := by
        rintro rfl
        cases absent.symm.trans stored
      exact ⟨row, (Function.update_of_ne foreign _ _).trans stored, rfl, rfl⟩
  | updated id changes old present =>
      by_cases own : jobId = id
      · subst own
        cases present.symm.trans stored
        exact ⟨_, Function.update_self _ _ _, rfl, rfl⟩
      · exact ⟨row, (Function.update_of_ne own _ _).trans stored, rfl, rfl⟩
  | _ => exact ⟨row, stored, rfl, rfl⟩

theorem keepsNames_of_step {env : Environment} {action : Action} {service after : Service}
    (moved : Step env service action after) : KeepsNames service.store after.store := by
  cases moved with
  | resume index outcome task next store found resumes =>
      obtain ⟨op, reply, -, called⟩ := resumes.exec
      exact keepsNames_of_written (written_of_exec called)
  | _ => exact fun _ row stored => ⟨row, stored, rfl, rfl⟩

/-- The row of the job names the repository for which the URL is accepted. -/
def Names (env : Environment) (jobId : JobId) (url : String) (store : Store) : Prop :=
  ∀ target, parseGithubRepositoryUrl env.urlLibrary url = .ok target →
    ∃ row, store.jobs jobId = some row ∧ row.owner = target.owner ∧ row.repo = target.repo

theorem Names.keep {env : Environment} {jobId : JobId} {url : String} {before after : Store}
    (names : Names env jobId url before) (keeps : KeepsNames before after) :
    Names env jobId url after := by
  intro target accepted
  obtain ⟨row, stored, owner, repo⟩ := names target accepted
  obtain ⟨kept, present, sameOwner, sameRepo⟩ := keeps jobId row stored
  exact ⟨kept, present, sameOwner.trans owner, sameRepo.trans repo⟩

/-- The operation is about the repository for which the URL is accepted. -/
def Op.About (env : Environment) (url : String) : Op → Prop
  | .fetchRepositoryContext target => parseGithubRepositoryUrl env.urlLibrary url = .ok target
  | .insertJob record => ∃ target, parseGithubRepositoryUrl env.urlLibrary url = .ok target ∧
      record.owner = target.owner ∧ record.repo = target.repo
  | .send message => ∃ target, parseGithubRepositoryUrl env.urlLibrary url = .ok target ∧
      message.repoUrl = target.canonicalUrl
  | _ => True

section

variable {env : Environment} {url : String} {target : ParsedRepoTarget}

theorem about_saveFinalReport (session : Session) (jobId : JobId) (content : ReportContent) :
    (saveFinalReport session jobId content).Uses (Op.About env url) :=
  uses_saveFinalReport _ _ _ trivial trivial (fun _ => trivial) (fun _ => trivial) trivial

theorem about_updateJobStatus (session : Session) (jobId : JobId) (changes : JobChanges) :
    (updateJobStatus session jobId changes).Uses (Op.About env url) :=
  uses_updateJobStatus _ _ _ trivial (fun _ => trivial) trivial

theorem about_executeResearchPipeline (message : ResearchJobMessage) :
    (executeResearchPipeline env message).Uses (Op.About env message.repoUrl) := by
  unfold executeResearchPipeline
  cases accepted : parseGithubRepositoryUrl env.urlLibrary message.repoUrl with
  | error error => exact Program.uses_raise _
  | ok target =>
      apply Program.Uses.perform_bind
      · trivial
      intro existing
      apply Program.Uses.perform_bind
      · trivial
      intro now
      apply Program.Uses.perform_bind
      · trivial
      intro _
      apply uses_withSession
      · apply Program.Uses.bind
        · exact about_updateJobStatus _ _ _
        intro started
        apply Program.Uses.perform_bind
        · exact accepted
        intro rawContext
        apply Program.Uses.perform_bind
        · trivial
        intro now
        apply Program.Uses.perform_bind
        · trivial
        intro _
        apply Program.Uses.bind
        · exact about_updateJobStatus _ _ _
        intro prepared
        apply Program.Uses.bind
        · apply (uses_analysisStage env message.jobId rawContext _).mono
          intro op analysis
          cases op with
          | fetchRepositoryContext | insertJob | send => cases analysis
          | _ => trivial
        intro analysis
        apply Program.Uses.perform_bind
        · trivial
        intro createdAt
        apply Program.Uses.bind
        · exact about_saveFinalReport _ _ _
        intro saved
        apply Program.Uses.bind
        · exact about_updateJobStatus _ _ _
        intro updated
        apply Program.Uses.perform_bind
        · trivial
        intro later
        exact Program.Uses.perform trivial
      · trivial

theorem about_announceJob (accepted : parseGithubRepositoryUrl env.urlLibrary url = .ok target)
    (session : Session) (request : ResearchRequest) (rawContext : RepositoryRawContext)
    (jobId : JobId) :
    (announceJob session target request rawContext jobId).Uses (Op.About env url) := by
  apply Program.Uses.perform_bind
  · trivial
  intro now
  apply Program.Uses.perform_bind
  · trivial
  intro _
  apply Program.Uses.perform_bind
  · trivial
  intro cached
  cases cached with
  | some cachedAi =>
      apply Program.Uses.perform_bind
      · trivial
      intro createdAt
      apply Program.Uses.bind
      · exact about_saveFinalReport _ _ _
      intro saved
      apply Program.Uses.bind
      · exact about_updateJobStatus _ _ _
      intro updated
      apply Program.Uses.perform_bind
      · trivial
      intro later
      apply Program.Uses.perform_bind
      · trivial
      exact fun _ => Program.uses_pure _
  | none =>
      apply Program.Uses.perform_bind
      · trivial
      intro enqueuedAt
      apply Program.Uses.bind
      · exact Program.Uses.attempt (.perform ⟨target, accepted, rfl⟩)
      intro sent
      cases sent with
      | ok _ => exact Program.uses_pure _
      | error error =>
          apply Program.Uses.bind
          · exact about_updateJobStatus _ _ _
          intro updated
          apply Program.Uses.perform_bind
          · trivial
          intro later
          apply Program.Uses.perform_bind
          · trivial
          exact fun _ => Program.uses_raise _

theorem about_submitResearchJob (context : RequestContext) (request : ResearchRequest) :
    (submitResearchJob env context request).Uses (Op.About env request.url) := by
  apply uses_answering
  unfold submit
  cases accepted : parseGithubRepositoryUrl env.urlLibrary request.url with
  | error error => exact Program.uses_raise _
  | ok target =>
      apply Program.Uses.perform_bind
      · exact accepted
      intro rawContext
      apply Program.Uses.perform_bind
      · trivial
      intro jobId
      apply Program.Uses.bind
      · apply Program.Uses.perform_bind
        · exact ⟨target, accepted, rfl, rfl⟩
        intro _
        apply Program.Uses.perform_bind
        · trivial
        intro refreshed
        exact Program.uses_pure _
      intro session
      exact about_announceJob accepted session request rawContext jobId

end

/-- What a task calls is about the repository of its job. -/
def Follows (env : Environment) (store : Store) (trace : Trace) : Task → Prop
  | .submit job program => ∃ url, endsInDoubleGit env.urlLibrary url = false ∧
      program.Uses (Op.About env url) ∧ (∀ event ∈ trace, Op.About env url event.op) ∧
      ∀ jobId, job = some jobId → Names env jobId url store
  | .execute received program => program.Uses (Op.About env received.body.repoUrl) ∧
      (∀ event ∈ trace, Op.About env received.body.repoUrl event.op) ∧
      Names env received.body.jobId received.body.repoUrl store
  | _ => True

/-- Every task is about the repository of its job, and so is every message. -/
structure Described (env : Environment) (service : Service) (journal : Journal) : Prop where
  tasks : ∀ (index : Nat) (task : Task), service.tasks[index]? = some task →
    Follows env service.store (journal index) task
  queued : ∀ body, .job body ∈ service.store.queue.bodies →
    Names env body.jobId body.repoUrl service.store

section

variable {env : Environment} {before after : Store} {trace : Trace} {task next : Task}

theorem Follows.keep (follows : Follows env before trace task) (keeps : KeepsNames before after) :
    Follows env after trace task := by
  cases task with
  | submit job program =>
      obtain ⟨url, single, uses, told, names⟩ := follows
      exact ⟨url, single, uses, told, fun jobId named => (names jobId named).keep keeps⟩
  | execute received program => exact ⟨follows.1, follows.2.1, follows.2.2.keep keeps⟩
  | poll | settle | crashed => trivial

theorem follows_working {settings : Settings} {received : ReceivedMessage}
    {program : Coroutine Unit} (uses : program.Uses (Op.About env received.body.repoUrl))
    (told : ∀ event ∈ trace, Op.About env received.body.repoUrl event.op)
    (names : Names env received.body.jobId received.body.repoUrl after) :
    Follows env after trace (.working settings received program) := by
  cases program with
  | call op resume => exact ⟨uses, told, names⟩
  | pure | raise => trivial

/-- A call keeps its task to the repository. -/
theorem Follows.resume {settings : Settings} {outcome : Outcome}
    (follows : Follows env before trace task)
    (resumes : task.Resumes settings outcome before after next) {op : Op}
    {reply : Except Exn op.Reply} (pending : task.pending = some op)
    (called : exec op outcome before = some (reply, after)) :
    Follows env after (trace ++ [⟨op, reply⟩]) next := by
  have keeps := keepsNames_of_written (written_of_exec called)
  have appended : ∀ {url : String}, (∀ event ∈ trace, Op.About env url event.op) →
      Op.About env url op → ∀ event ∈ trace ++ [⟨op, reply⟩], Op.About env url event.op := by
    intro url told about event member
    rcases List.mem_append.mp member with old | new
    · exact told event old
    · cases List.mem_singleton.mp new
      exact about
  cases resumes with
  | submit job op resume answer also =>
      cases pending
      cases called.symm.trans also
      obtain ⟨url, single, uses, told, names⟩ := follows
      obtain ⟨about, rest⟩ := Program.uses_call.mp uses
      refine ⟨url, single, rest reply, appended told about, ?_⟩
      intro jobId named
      cases job with
      | some other => exact (names jobId named).keep keeps
      | none =>
          have registered : Task.registered op reply = some jobId := named
          unfold Task.registered at registered
          split at registered
          · cases registered
            obtain ⟨target, accepted, owner, repo⟩ := about
            obtain ⟨-, rfl⟩ := insertJob_ok called
            intro again reparsed
            cases accepted.symm.trans reparsed
            exact ⟨_, Function.update_self _ _ _, owner, repo⟩
          · cases registered
  | execute received op resume answer also =>
      cases pending
      cases called.symm.trans also
      obtain ⟨uses, told, names⟩ := follows
      obtain ⟨about, rest⟩ := Program.uses_call.mp uses
      exact follows_working (rest reply) (appended told about) (names.keep keeps)
  | poll | settle => trivial

/-- The bodies of the messages after a call. -/
theorem bodies_of_written {op : Op} (written : Written before op after) {body : MessageBody}
    (member : body ∈ after.queue.bodies) :
    body ∈ before.queue.bodies ∨ ∃ message, op = .send message ∧ body = .job message := by
  cases written with
  | sent message =>
      rw [Store.putQueue_queue, Queue.bodies_enqueue] at member
      rcases List.mem_append.mp member with old | new
      · exact .inl old
      · exact .inr ⟨message, rfl, List.mem_singleton.mp new⟩
  | deleted handle honoured =>
      rw [Store.putQueue_queue, (Queue.moves_delete _ _ _).bodies] at member
      exact .inl member
  | revealed handle timeoutSeconds honoured =>
      rw [Store.putQueue_queue, (Queue.moves_changeVisibility _ _ _ _).bodies] at member
      exact .inl member
  | _ => exact .inl member

end

/-- A message names the repository of its job by a URL that the worker parses to
the same target. -/
theorem names_of_send {env : Environment} {store : Store} {trace : Trace} {task : Task}
    (follows : Follows env store trace task) (held : task.Scoped store)
    {message : ResearchJobMessage} (pending : task.pending = some (.send message)) :
    Names env message.jobId message.repoUrl store := by
  cases held.may pending with
  | start program starts => cases starts
  | submit jobId program present submission =>
      obtain ⟨url, single, uses, -, names⟩ := follows
      obtain ⟨target, accepted, canonical⟩ := uses.pending pending
      intro again reparsed
      rw [canonical, parse_canonicalUrl_of_single accepted single] at reparsed
      cases reparsed
      have named : message.jobId = jobId := submission
      exact named ▸ names jobId rfl target accepted
  | poll jobId known program poll => cases poll
  | work task received delivery about works =>
      rcases works with pipeline | settling <;> contradiction

theorem Described.step {env : Environment} {action : Action} {service after : Service}
    {journal : Journal} (described : Described env service journal) (scope : service.Scoped)
    (recorded : service.Recorded journal)
    (single : ∀ context request, action = .submit context request →
      endsInDoubleGit env.urlLibrary request.url = false)
    (moved : Step env service action after) :
    Described env after (journal.note action service) := by
  have keeps := keepsNames_of_step moved
  have fresh : journal service.tasks.length = [] := recorded.fresh _ (Nat.le_refl _)
  have drifted : ∀ {id : Nat} {queue : Queue}, service.store.queue.Moves id queue →
      ∀ body, .job body ∈ queue.bodies → Names env body.jobId body.repoUrl service.store := by
    intro id queue moves body member
    rw [moves.bodies] at member
    exact described.queued body member
  cases moved with
  | submit context request =>
      refine ⟨fun index task member => ?_, described.queued⟩
      rcases Service.spawned_cases member with old | ⟨rfl, rfl⟩
      · exact described.tasks index task old
      · change Follows env service.store (journal service.tasks.length) _
        rw [fresh]
        refine ⟨request.url, single context request rfl,
          about_submitResearchJob context request, ?_, ?_⟩
        · exact fun _ member => absurd member List.not_mem_nil
        · intro jobId named
          cases named
  | poll context jobId =>
      refine ⟨fun index task member => ?_, described.queued⟩
      rcases Service.spawned_cases member with old | ⟨rfl, rfl⟩
      · exact described.tasks index task old
      · trivial
  | deliver id message body found visible below named =>
      refine ⟨fun index task member => ?_, drifted (Queue.moves_markReceived _ id)⟩
      rcases Service.spawned_cases member with old | ⟨rfl, rfl⟩
      · exact (described.tasks index task old).keep keeps
      · change Follows env _ (journal service.tasks.length) _
        rw [fresh]
        apply follows_working
        · exact about_executeResearchPipeline body
        · exact fun _ member => absurd member List.not_mem_nil
        · apply described.queued body
          rw [← named]
          exact List.mem_map_of_mem (List.mem_of_getElem? found)
  | reject id message error found visible below malformed =>
      exact ⟨fun index task member => (described.tasks index task member).keep keeps,
        drifted (Queue.moves_markReceived _ id)⟩
  | resume index outcome task next store found resumes =>
      obtain ⟨op, reply, pending, called⟩ := resumes.exec
      rw [Journal.note_of_resume found pending called]
      constructor
      · intro other present member
        rcases Service.replaced_cases member with ⟨rfl, rfl⟩ | ⟨different, old⟩
        · rw [Function.update_self]
          exact (described.tasks other task found).resume resumes pending called
        · rw [Function.update_of_ne different]
          exact (described.tasks other present old).keep keeps
      · intro body member
        rcases bodies_of_written (written_of_exec called) member with old | ⟨message, rfl, same⟩
        · exact (described.queued body old).keep keeps
        · cases same
          exact (names_of_send (described.tasks index task found) (scope.tasks index task found)
            pending).keep keeps
  | crash index task found live =>
      refine ⟨fun other present member => ?_, described.queued⟩
      rcases Service.replaced_cases member with ⟨-, rfl⟩ | ⟨-, old⟩
      · trivial
      · exact described.tasks other present old
  | expireSnapshot | expireCached => exact ⟨described.tasks, described.queued⟩
  | timeout id =>
      exact ⟨fun index task member => (described.tasks index task member).keep keeps,
        drifted (Queue.moves_timeout _ id)⟩
  | redrive id =>
      exact ⟨fun index task member => (described.tasks index task member).keep keeps,
        drifted (Queue.moves_redrive _ id)⟩

end Naming

end ResearchTool
