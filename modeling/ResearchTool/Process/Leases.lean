import Mathlib.Data.List.Basic

/-!
# Tasks that lease keys

A pool of tasks over a shared state.  A task in progress may hold the lease of
a key, and no two hold the same one; what a finished task came to is the
verdict it leaves behind.  Between two leases a key is at rest: what holds of
it then may depend on the verdicts so far, and is what the next tenant finds.
-/

namespace ResearchTool.Process

universe u v w x

structure Leases (σ : Type u) (κ : Type v) (τ : Type w) (ω : Type x) where
  /-- The key whose lease a task holds. -/
  tenant : τ → Option κ
  /-- What a finished task came to. -/
  verdict : τ → Option (κ × ω)
  /-- What the task makes of its key, given the verdicts before it. -/
  keeps : List ω → τ → σ → Prop
  /-- What holds of a key without a tenant after the given verdicts. -/
  rests : κ → List ω → σ → Prop
  /-- What may happen to a key besides the calls of its tenant. -/
  leaves : κ → σ → σ → Prop
  finished : ∀ {task key result}, verdict task = some (key, result) → tenant task = none
  keeps_of_leaves : ∀ {key history task before after}, tenant task = some key →
    leaves key before after → keeps history task before → keeps history task after
  rests_of_leaves : ∀ {key history before after}, leaves key before after →
    rests key history before → rests key history after

namespace Leases

variable {σ : Type u} {κ : Type v} {τ : Type w} {ω : Type x} [DecidableEq κ]
  (leases : Leases σ κ τ ω)

/-- What a task came to about one key. -/
def verdictOn (key : κ) (task : τ) : Option ω :=
  (leases.verdict task).bind fun verdict => if verdict.1 = key then some verdict.2 else none

/-- The verdicts about a key, oldest first. -/
def history (key : κ) (tasks : List τ) : List ω :=
  tasks.filterMap (leases.verdictOn key)

/-- No task holds the lease of the key. -/
def Vacant (key : κ) (tasks : List τ) : Prop :=
  ∀ task ∈ tasks, leases.tenant task ≠ some key

/-- The leases are exclusive, every tenant keeps its key, and what has no
tenant is at rest. -/
structure Kept (tasks : List τ) (state : σ) : Prop where
  alone : ∀ {first second : Nat} {one other : τ} {key : κ}, tasks[first]? = some one →
    tasks[second]? = some other → leases.tenant one = some key →
    leases.tenant other = some key → first = second
  last : ∀ {index later : Nat} {task other : τ} {key : κ}, tasks[index]? = some task →
    leases.tenant task = some key → tasks[later]? = some other → index < later →
    leases.verdictOn key other = none
  keeps : ∀ {index : Nat} {task : τ} {key : κ}, tasks[index]? = some task →
    leases.tenant task = some key → leases.keeps (leases.history key tasks) task state
  rests : ∀ {key : κ}, leases.Vacant key tasks →
    leases.rests key (leases.history key tasks) state

variable {leases}

theorem verdictOn_of_none {task : τ} (open' : leases.verdict task = none) (key : κ) :
    leases.verdictOn key task = none := by
  rw [verdictOn, open']
  rfl

/-- A tenant has not come to anything yet. -/
theorem verdictOn_of_tenant {task : τ} {key other : κ} (holds : leases.tenant task = some key) :
    leases.verdictOn other task = none := by
  apply verdictOn_of_none
  cases ended : leases.verdict task with
  | none => rfl
  | some verdict => cases holds.symm.trans (leases.finished ended)

theorem verdictOn_eq_some_iff {key : κ} {task : τ} {result : ω} :
    leases.verdictOn key task = some result ↔ leases.verdict task = some (key, result) := by
  rw [verdictOn, Option.bind_eq_some_iff]
  constructor
  · rintro ⟨⟨about, verdict⟩, ended, same⟩
    by_cases named : about = key
    · subst named
      rw [if_pos rfl] at same
      cases same
      exact ended
    · rw [if_neg named] at same
      cases same
  · intro ended
    exact ⟨(key, result), ended, if_pos rfl⟩

theorem history_append (key : κ) (tasks : List τ) (task : τ) :
    leases.history key (tasks ++ [task]) =
      leases.history key tasks ++ (leases.verdictOn key task).toList := by
  rw [history, List.filterMap_append, history, List.filterMap_cons]
  cases leases.verdictOn key task <;> rfl

/-- A task that is replaced adds its verdict at the end, if none stands after it. -/
theorem history_set {key : κ} {tasks : List τ} {index : Nat} {task : τ} (next : τ)
    (found : tasks[index]? = some task) (before : leases.verdictOn key task = none)
    (after : ∀ (later : Nat) (other : τ), tasks[later]? = some other → index < later →
      leases.verdictOn key other = none) :
    leases.history key (tasks.set index next) =
      leases.history key tasks ++ (leases.verdictOn key next).toList := by
  induction tasks generalizing index with
  | nil => cases found
  | cons head tail ih =>
      cases index with
      | zero =>
          cases Option.some.inj found
          have empty : leases.history key tail = [] := by
            apply List.filterMap_eq_nil_iff.mpr
            intro other member
            obtain ⟨later, present⟩ := List.mem_iff_getElem?.mp member
            exact after (later + 1) other present (Nat.succ_pos later)
          rw [history] at empty
          rw [List.set_cons_zero, history, history, List.filterMap_cons, List.filterMap_cons,
            before, empty]
          cases leases.verdictOn key next <;> rfl
      | succ index =>
          have rest := ih found fun later other present beyond =>
            after (later + 1) other present (Nat.succ_lt_succ beyond)
          rw [history, history] at rest
          rw [List.set_cons_succ, history, history, List.filterMap_cons, List.filterMap_cons, rest]
          cases leases.verdictOn key head <;> rfl

/-- A replacement that neither has nor had a verdict about the key. -/
theorem history_set_of_none {key : κ} {tasks : List τ} {index : Nat} {task next : τ}
    (found : tasks[index]? = some task) (before : leases.verdictOn key task = none)
    (after : leases.verdictOn key next = none) :
    leases.history key (tasks.set index next) = leases.history key tasks := by
  induction tasks generalizing index with
  | nil => cases found
  | cons head tail ih =>
      cases index with
      | zero =>
          cases Option.some.inj found
          rw [List.set_cons_zero, history, history, List.filterMap_cons, List.filterMap_cons,
            before, after]
      | succ index =>
          have rest := ih found
          rw [history, history] at rest
          rw [List.set_cons_succ, history, history, List.filterMap_cons, List.filterMap_cons, rest]

omit [DecidableEq κ] in
theorem Vacant.of_set {key : κ} {tasks : List τ} {index : Nat} {task next : τ}
    (vacant : leases.Vacant key (tasks.set index next)) (found : tasks[index]? = some task)
    (idle : leases.tenant task ≠ some key) : leases.Vacant key tasks := by
  intro other member
  obtain ⟨position, present⟩ := List.mem_iff_getElem?.mp member
  by_cases same : index = position
  · subst same
    cases found.symm.trans present
    exact idle
  · exact vacant other (List.mem_iff_getElem?.mpr ⟨position, by rwa [List.getElem?_set_ne same]⟩)

namespace Kept

variable {tasks : List τ} {state after : σ} (kept : leases.Kept tasks state)

include kept

/-- The state changes while every task waits. -/
theorem drift (left : ∀ key, leases.leaves key state after) : leases.Kept tasks after where
  alone := kept.alone
  last := kept.last
  keeps found holds := leases.keeps_of_leaves holds (left _) (kept.keeps found holds)
  rests vacant := leases.rests_of_leaves (left _) (kept.rests vacant)

/-- The state changes for a vacant key while every task waits. -/
theorem befall {key : κ} (vacant : leases.Vacant key tasks)
    (rests : leases.rests key (leases.history key tasks) after)
    (left : ∀ other, other ≠ key → leases.leaves other state after) : leases.Kept tasks after where
  alone := kept.alone
  last := kept.last
  keeps := by
    intro index task lease found holds
    have other : lease ≠ key := fun same => vacant task (List.mem_of_getElem? found) (same ▸ holds)
    exact leases.keeps_of_leaves holds (left lease other) (kept.keeps found holds)
  rests := by
    intro lease free
    by_cases same : lease = key
    · subst same
      exact rests
    · exact leases.rests_of_leaves (left lease same) (kept.rests free)

/-- A task more, which may take the lease of a vacant key. -/
theorem spawn {task : τ} (unfinished : leases.verdict task = none)
    (fresh : ∀ key, leases.tenant task = some key → leases.Vacant key tasks ∧
      leases.keeps (leases.history key tasks) task after)
    (left : ∀ key, leases.tenant task ≠ some key → leases.leaves key state after) :
    leases.Kept (tasks ++ [task]) after := by
  have same : ∀ key, leases.history key (tasks ++ [task]) = leases.history key tasks := by
    intro key
    rw [history_append, verdictOn_of_none unfinished, Option.toList_none, List.append_nil]
  -- a position of the longer list is an old one, or that of the new task
  have cases_of : ∀ {index : Nat} {found : τ}, (tasks ++ [task])[index]? = some found →
      tasks[index]? = some found ∨ (index = tasks.length ∧ found = task) := by
    intro index found present
    rcases Nat.lt_or_ge index tasks.length with below | above
    · exact .inl ((List.getElem?_append_left below).symm.trans present)
    · rw [List.getElem?_append_right above, List.getElem?_singleton] at present
      split at present
      · exact .inr ⟨by omega, (Option.some.inj present).symm⟩
      · cases present
  have elsewhere : ∀ {index : Nat} {found : τ} {key : κ}, tasks[index]? = some found →
      leases.tenant found = some key → leases.tenant task ≠ some key := fun present holds taken =>
    (fresh _ taken).1 _ (List.mem_of_getElem? present) holds
  constructor
  · intro first second one other key found also holds holding
    rcases cases_of found with old | ⟨rfl, rfl⟩ <;> rcases cases_of also with older | ⟨rfl, rfl⟩
    · exact kept.alone old older holds holding
    · exact absurd holding (elsewhere old holds)
    · exact absurd holds (elsewhere older holding)
    · rfl
  · intro index later found other key present holds also beyond
    rcases cases_of also with old | ⟨rfl, rfl⟩
    · rcases cases_of present with older | ⟨rfl, rfl⟩
      · exact kept.last older holds old beyond
      · have within := (List.getElem?_eq_some_iff.mp old).1
        omega
    · exact verdictOn_of_none unfinished key
  · intro index found key present holds
    rw [same]
    rcases cases_of present with old | ⟨rfl, rfl⟩
    · exact leases.keeps_of_leaves holds (left key (elsewhere old holds)) (kept.keeps old holds)
    · exact (fresh key holds).2
  · intro key vacant
    rw [same]
    apply leases.rests_of_leaves (left key _)
    · exact kept.rests fun other member => vacant other (List.mem_append_left _ member)
    · exact vacant task (List.mem_append_right _ (List.mem_singleton.mpr rfl))

omit [DecidableEq κ] kept in
/-- The task at a position of a pool one of whose tasks was replaced. -/
theorem replaced_cases {index position : Nat} {next found : τ}
    (present : (tasks.set index next)[position]? = some found) :
    (position = index ∧ found = next) ∨ (position ≠ index ∧ tasks[position]? = some found) := by
  rw [List.getElem?_set] at present
  split at present
  · rename_i same
    split at present
    · exact .inl ⟨same.symm, (Option.some.inj present).symm⟩
    · cases present
  · rename_i different
    exact .inr ⟨Ne.symm different, present⟩

/-- A tenant makes a call: it keeps its lease, or lets go of it. -/
theorem advance {index : Nat} {task next : τ} {key : κ} (found : tasks[index]? = some task)
    (holds : leases.tenant task = some key)
    (outcome : (leases.tenant next = some key ∧
        leases.keeps (leases.history key tasks) next after) ∨
      (leases.tenant next = none ∧
        leases.rests key (leases.history key tasks ++ (leases.verdictOn key next).toList) after))
    (about : ∀ other result, leases.verdict next = some (other, result) → other = key)
    (left : ∀ other, other ≠ key → leases.leaves other state after) :
    leases.Kept (tasks.set index next) after := by
  have own : leases.history key (tasks.set index next) =
      leases.history key tasks ++ (leases.verdictOn key next).toList :=
    history_set next found (verdictOn_of_tenant holds) fun _ _ present beyond =>
      kept.last found holds present beyond
  have foreign : ∀ {other : κ}, other ≠ key → leases.verdictOn other next = none := by
    intro other different
    cases ended : leases.verdictOn other next with
    | none => rfl
    | some result =>
        exact absurd (about other result (verdictOn_eq_some_iff.mp ended)) different
  have others : ∀ {other : κ}, other ≠ key →
      leases.history other (tasks.set index next) = leases.history other tasks :=
    fun different =>
      history_set_of_none found (verdictOn_of_tenant holds) (foreign different)
  -- besides the replaced task nobody has its key
  have apart : ∀ {position : Nat} {other : τ} {taken : κ}, position ≠ index →
      tasks[position]? = some other → leases.tenant other = some taken → taken ≠ key := by
    rintro position other taken different present holding rfl
    exact different (kept.alone present found holding holds)
  have taken : ∀ {other : κ}, leases.tenant next = some other → other = key := by
    intro other holding
    rcases outcome with ⟨same, -⟩ | ⟨free, -⟩
    · exact Option.some.inj (holding.symm.trans same)
    · cases free.symm.trans holding
  constructor
  · intro first second one other lease present also holding too
    rcases replaced_cases present with ⟨rfl, rfl⟩ | ⟨different, old⟩ <;>
      rcases replaced_cases also with ⟨rfl, rfl⟩ | ⟨distinct, older⟩
    · rfl
    · exact absurd (taken holding) (apart distinct older too)
    · exact absurd (taken too) (apart different old holding)
    · exact kept.alone old older holding too
  · intro position later other further lease present holding also beyond
    rcases replaced_cases present with ⟨rfl, rfl⟩ | ⟨different, old⟩ <;>
      rcases replaced_cases also with ⟨rfl, rfl⟩ | ⟨distinct, older⟩
    · omega
    · rw [taken holding]
      exact kept.last found holds older beyond
    · exact foreign (apart different old holding)
    · exact kept.last old holding older beyond
  · intro position other lease present holding
    rcases replaced_cases present with ⟨rfl, rfl⟩ | ⟨different, old⟩
    · rcases outcome with ⟨same, keeps⟩ | ⟨free, -⟩
      · cases same.symm.trans holding
        rw [own, verdictOn_of_tenant same, Option.toList_none, List.append_nil]
        exact keeps
      · cases free.symm.trans holding
    · have foreign := apart different old holding
      rw [others foreign]
      exact leases.keeps_of_leaves holding (left lease foreign) (kept.keeps old holding)
  · intro lease vacant
    by_cases same : lease = key
    · subst same
      rw [own]
      rcases outcome with ⟨holding, -⟩ | ⟨-, rests⟩
      · have within : index < tasks.length := (List.getElem?_eq_some_iff.mp found).1
        exact absurd holding (vacant next (List.mem_set within next))
      · exact rests
    · rw [others same]
      apply leases.rests_of_leaves (left lease same)
      apply kept.rests
      apply vacant.of_set found
      rw [holds]
      exact fun named => same (Option.some.inj named).symm

/-- A task without a lease makes a call, and may take the lease of a vacant
key that has no verdicts. -/
theorem idle {index : Nat} {task next : τ} (found : tasks[index]? = some task)
    (free : leases.tenant task = none) (open' : leases.verdict task = none)
    (unfinished : leases.verdict next = none)
    (fresh : ∀ key, leases.tenant next = some key → leases.Vacant key tasks ∧
      leases.history key tasks = [] ∧ leases.keeps [] next after)
    (left : ∀ key, leases.tenant next ≠ some key → leases.leaves key state after ∨
      (leases.Vacant key tasks ∧ leases.rests key (leases.history key tasks) after)) :
    leases.Kept (tasks.set index next) after := by
  have same : ∀ key, leases.history key (tasks.set index next) = leases.history key tasks :=
    fun key => history_set_of_none found (verdictOn_of_none open' key)
      (verdictOn_of_none unfinished key)
  have apart : ∀ {position : Nat} {other : τ} {key : κ}, tasks[position]? = some other →
      leases.tenant other = some key → leases.tenant next ≠ some key := fun present holds taken =>
    (fresh _ taken).1 _ (List.mem_of_getElem? present) holds
  constructor
  · intro first second one other key present also holding too
    rcases replaced_cases present with ⟨rfl, rfl⟩ | ⟨different, old⟩ <;>
      rcases replaced_cases also with ⟨rfl, rfl⟩ | ⟨distinct, older⟩
    · rfl
    · exact absurd holding (apart older too)
    · exact absurd too (apart old holding)
    · exact kept.alone old older holding too
  · intro position later other further key present holding also beyond
    rcases replaced_cases also with ⟨rfl, rfl⟩ | ⟨distinct, older⟩
    · exact verdictOn_of_none unfinished key
    · rcases replaced_cases present with ⟨rfl, rfl⟩ | ⟨different, old⟩
      · have none := (fresh key holding).2.1
        exact List.filterMap_eq_nil_iff.mp none further (List.mem_of_getElem? older)
      · exact kept.last old holding older beyond
  · intro position other key present holding
    rw [same]
    rcases replaced_cases present with ⟨rfl, rfl⟩ | ⟨different, old⟩
    · obtain ⟨-, empty, keeps⟩ := fresh key holding
      rw [empty]
      exact keeps
    · rcases left key (apart old holding) with leaves | ⟨vacant, -⟩
      · exact leases.keeps_of_leaves holding leaves (kept.keeps old holding)
      · exact absurd holding (vacant other (List.mem_of_getElem? old))
  · intro key vacant
    rw [same]
    have within : index < tasks.length := (List.getElem?_eq_some_iff.mp found).1
    rcases left key (vacant next (List.mem_set within next)) with leaves | ⟨-, rests⟩
    · apply leases.rests_of_leaves leaves
      apply kept.rests
      apply vacant.of_set found
      rw [free]
      exact nofun
    · exact rests

end Kept

end Leases

end ResearchTool.Process
