import ResearchTool.Process.Logic

/-!
# Programs running alone

`Runs` relates a program and a state to the calls it makes, the outcome it
ends with and the state it leaves, when nothing else touches the state.
`Always` is the weakest precondition of that relation: every run ends as the
postcondition says.
-/

namespace ResearchTool.Process

universe u v

variable {S : Signature.{u}} {ε α β : Type u} {σ : Type v}

/-- One call: the operation and its reply. -/
structure Event (S : Signature.{u}) (ε : Type u) where
  op : S.Op
  reply : Except ε (S.Reply op)

/-- The call raised an exception. -/
def Event.raised (event : Event S ε) : Bool :=
  match event.reply with
  | .ok _ => false
  | .error _ => true

/-- What one call may reply and how it may change the state. -/
abbrev Effect (S : Signature.{u}) (ε : Type u) (σ : Type v) :=
  (op : S.Op) → σ → Except ε (S.Reply op) → σ → Prop

namespace Program

/-- The program runs from one state to another through the listed calls. -/
inductive Runs (effect : Effect S ε σ) :
    Program S ε α → σ → List (Event S ε) → Except ε α → σ → Prop where
  | pure (value : α) (state : σ) : Runs effect (.pure value) state [] (.ok value) state
  | raise (error : ε) (state : σ) : Runs effect (.raise error) state [] (.error error) state
  | call {op : S.Op} {resume : Except ε (S.Reply op) → Program S ε α} {state middle final : σ}
      {reply : Except ε (S.Reply op)} {rest : List (Event S ε)} {result : Except ε α}
      (called : effect op state reply middle)
      (remaining : Runs effect (resume reply) middle rest result final) :
      Runs effect (.call op resume) state (⟨op, reply⟩ :: rest) result final

/-- The program goes from one state to another through the listed calls, and
has the given program left. -/
inductive Leads (effect : Effect S ε σ) :
    Program S ε α → σ → List (Event S ε) → Program S ε α → σ → Prop where
  | here (program : Program S ε α) (state : σ) : Leads effect program state [] program state
  | call {op : S.Op} {resume : Except ε (S.Reply op) → Program S ε α} {state middle final : σ}
      {reply : Except ε (S.Reply op)} {rest : List (Event S ε)} {left : Program S ε α}
      (called : effect op state reply middle)
      (remaining : Leads effect (resume reply) middle rest left final) :
      Leads effect (.call op resume) state (⟨op, reply⟩ :: rest) left final

/-- Every run from `state` ends as `post` says. -/
def Always (effect : Effect S ε σ) (program : Program S ε α) (state : σ)
    (post : List (Event S ε) → Except ε α → σ → Prop) : Prop :=
  ∀ trace result final, program.Runs effect state trace result final → post trace result final

variable {effect : Effect S ε σ} {state : σ}

@[simp]
theorem always_pure {value : α} {post : List (Event S ε) → Except ε α → σ → Prop} :
    (Program.pure value : Program S ε α).Always effect state post ↔ post [] (.ok value) state := by
  constructor
  · intro always
    exact always _ _ _ (.pure value state)
  · intro holds trace result final runs
    cases runs
    exact holds

@[simp]
theorem always_raise {error : ε} {post : List (Event S ε) → Except ε α → σ → Prop} :
    (Program.raise error : Program S ε α).Always effect state post ↔
      post [] (.error error) state := by
  constructor
  · intro always
    exact always _ _ _ (.raise error state)
  · intro holds trace result final runs
    cases runs
    exact holds

theorem always_call {op : S.Op} {resume : Except ε (S.Reply op) → Program S ε α}
    {post : List (Event S ε) → Except ε α → σ → Prop} :
    (Program.call op resume).Always effect state post ↔
      ∀ reply middle, effect op state reply middle →
        (resume reply).Always effect middle fun rest => post (⟨op, reply⟩ :: rest) := by
  constructor
  · intro always reply middle called rest result final remaining
    exact always _ _ _ (.call called remaining)
  · intro each trace result final runs
    cases runs with
    | call called remaining => exact each _ _ called _ _ _ remaining

theorem always_of_forall {program : Program S ε α}
    {post : List (Event S ε) → Except ε α → σ → Prop}
    (holds : ∀ trace result final, post trace result final) : program.Always effect state post :=
  fun trace result final _ => holds trace result final

theorem Always.mono {program : Program S ε α}
    {post other : List (Event S ε) → Except ε α → σ → Prop}
    (always : program.Always effect state post)
    (implies : ∀ trace result final, post trace result final → other trace result final) :
    program.Always effect state other :=
  fun trace result final runs => implies _ _ _ (always trace result final runs)

/-- Sequencing: the second program starts where the first one returned. -/
theorem always_bind {program : Program S ε α} {next : α → Program S ε β}
    {post : List (Event S ε) → Except ε β → σ → Prop} :
    (program.bind next).Always effect state post ↔
      program.Always effect state fun first outcome middle =>
        match outcome with
        | .ok value => (next value).Always effect middle fun second => post (first ++ second)
        | .error error => post first (.error error) middle := by
  induction program generalizing state post with
  | pure value => simp
  | raise error => simp
  | call op resume ih => simp only [call_bind, always_call, ih, List.cons_append]

/-- Catching: the outcome of the caught program is the value of `attempt`. -/
theorem always_attempt {program : Program S ε α}
    {post : List (Event S ε) → Except ε (Except ε α) → σ → Prop} :
    program.attempt.Always effect state post ↔
      program.Always effect state fun trace outcome => post trace (.ok outcome) := by
  induction program generalizing state post with
  | pure value => simp [attempt]
  | raise error => simp [attempt]
  | call op resume ih => simp only [attempt, always_call, ih]

/-- One call and the rest of the program. -/
theorem always_perform_bind {op : S.Op} {next : S.Reply op → Program S ε α}
    {post : List (Event S ε) → Except ε α → σ → Prop}
    (returned : ∀ value middle, effect op state (.ok value) middle →
      (next value).Always effect middle fun rest => post (⟨op, .ok value⟩ :: rest))
    (raised : ∀ error middle, effect op state (.error error) middle →
      post [⟨op, .error error⟩] (.error error) middle) :
    ((perform op).bind next).Always effect state post := by
  rw [perform, call_bind, always_call]
  intro reply middle called
  cases reply with
  | ok value => exact returned value middle called
  | error error => exact always_raise.mpr (raised error middle called)

/-- What a program keeps under interference it keeps alone. -/
theorem Safe.always {P : Protocol S ε σ} {post : Except ε α → σ → Prop}
    {program : Program S ε α} (safe : program.Safe P post state) (kept : P.invariant state) :
    program.Always P.effect state fun _ outcome final => post outcome final := by
  induction program generalizing state with
  | pure value => exact always_pure.mpr (safe_pure.mp safe state kept (P.rely_refl state))
  | raise error => exact always_raise.mpr (safe_raise.mp safe state kept (P.rely_refl state))
  | call op resume ih =>
      rw [always_call]
      intro reply middle called
      obtain ⟨keptMiddle, -, rest⟩ :=
        safe_call.mp safe state reply middle kept (P.rely_refl state) called
      exact ih reply rest keptMiddle

/-- What a program keeps under interference it keeps in a run of calls with the
interference before each of them. -/
theorem Safe.always_interfered {P : Protocol S ε σ} {post : Except ε α → σ → Prop}
    {program : Program S ε α} (safe : program.Safe P post state)
    (invariant : ∀ state, P.invariant state)
    (interfered : ∀ op before reply after, effect op before reply after →
      ∃ now, P.rely before now ∧ P.effect op now reply after) :
    program.Always effect state fun _ outcome final => post outcome final := by
  induction program generalizing state with
  | pure value =>
      exact always_pure.mpr (safe_pure.mp safe state (invariant state) (P.rely_refl state))
  | raise error =>
      exact always_raise.mpr (safe_raise.mp safe state (invariant state) (P.rely_refl state))
  | call op resume ih =>
      rw [always_call]
      intro reply middle called
      obtain ⟨now, reached, answered⟩ := interfered op state reply middle called
      obtain ⟨-, -, rest⟩ := safe_call.mp safe now reply middle (invariant now) reached answered
      exact ih reply rest

theorem Runs.meets {program : Program S ε α} {trace : List (Event S ε)} {result : Except ε α}
    {final : σ} {post : List (Event S ε) → Except ε α → σ → Prop}
    (runs : program.Runs effect state trace result final)
    (always : program.Always effect state post) : post trace result final :=
  always trace result final runs

/-- A run is one of every effect that allows its calls. -/
theorem Runs.mono {other : Effect S ε σ} {program : Program S ε α} {trace : List (Event S ε)}
    {result : Except ε α} {final : σ} (runs : program.Runs effect state trace result final)
    (allows : ∀ op before reply after, effect op before reply after →
      other op before reply after) : program.Runs other state trace result final := by
  induction runs with
  | pure value state => exact .pure value state
  | raise error state => exact .raise error state
  | call called remaining ih => exact .call (allows _ _ _ _ called) ih

/-- A run of a sequence is a run of its first program, followed by one of the
second if the first returned. -/
theorem runs_bind_iff {program : Program S ε α} {next : α → Program S ε β}
    {trace : List (Event S ε)} {result : Except ε β} {final : σ} :
    (program.bind next).Runs effect state trace result final ↔
      (∃ first value middle second, program.Runs effect state first (.ok value) middle ∧
        (next value).Runs effect middle second result final ∧ trace = first ++ second) ∨
      ∃ error, program.Runs effect state trace (.error error) final ∧ result = .error error := by
  constructor
  · intro runs
    induction program generalizing state trace with
    | pure value => exact .inl ⟨[], value, state, trace, .pure value state, runs, rfl⟩
    | raise error =>
        cases runs
        exact .inr ⟨error, .raise error _, rfl⟩
    | call op resume ih =>
        cases runs with
        | call called remaining =>
            rcases ih _ remaining with ⟨first, value, middle, second, head, tail, rfl⟩ |
              ⟨error, head, rfl⟩
            · exact .inl ⟨_ :: first, value, middle, second, .call called head, tail, rfl⟩
            · exact .inr ⟨error, .call called head, rfl⟩
  · rintro (⟨first, value, middle, second, head, tail, rfl⟩ | ⟨error, head, rfl⟩)
    · induction program generalizing state first with
      | pure value =>
          cases head
          exact tail
      | raise error => cases head
      | call op resume ih =>
          cases head with
          | call called remaining => exact .call called (ih _ _ remaining)
    · induction program generalizing state trace with
      | pure value => cases head
      | raise error =>
          cases head
          exact .raise error _
      | call op resume ih =>
          cases head with
          | call called remaining => exact .call called (ih _ remaining)

/-- A caught program ends with its outcome as the value. -/
theorem runs_attempt_iff {program : Program S ε α} {trace : List (Event S ε)}
    {result : Except ε (Except ε α)} {final : σ} :
    program.attempt.Runs effect state trace result final ↔
      ∃ outcome, program.Runs effect state trace outcome final ∧ result = .ok outcome := by
  induction program generalizing state trace with
  | pure value =>
      constructor
      · intro runs
        cases runs
        exact ⟨.ok value, .pure value _, rfl⟩
      · rintro ⟨outcome, runs, rfl⟩
        cases runs
        exact .pure _ _
  | raise error =>
      constructor
      · intro runs
        cases runs
        exact ⟨.error error, .raise error _, rfl⟩
      · rintro ⟨outcome, runs, rfl⟩
        cases runs
        exact .pure _ _
  | call op resume ih =>
      constructor
      · intro runs
        cases runs with
        | call called remaining =>
            obtain ⟨outcome, rest, rfl⟩ := (ih _).mp remaining
            exact ⟨outcome, .call called rest, rfl⟩
      · rintro ⟨outcome, runs, rfl⟩
        cases runs with
        | call called remaining => exact .call called ((ih _).mpr ⟨outcome, remaining, rfl⟩)

/-- A run makes only calls that the program may make. -/
theorem Runs.uses {program : Program S ε α} {trace : List (Event S ε)} {result : Except ε α}
    {final : σ} {allowed : S.Op → Prop} (runs : program.Runs effect state trace result final)
    (uses : program.Uses allowed) : ∀ event ∈ trace, allowed event.op := by
  induction runs with
  | pure value state => simp
  | raise error state => simp
  | call called remaining ih =>
      obtain ⟨permitted, rest⟩ := uses_call.mp uses
      intro event member
      rcases List.mem_cons.mp member with rfl | later
      · exact permitted
      · exact ih (rest _) event later

/-- Every call of a run is one the effect allows. -/
theorem Runs.events {program : Program S ε α} {trace : List (Event S ε)} {result : Except ε α}
    {final : σ} (runs : program.Runs effect state trace result final) :
    ∀ event ∈ trace, ∃ before after, effect event.op before event.reply after := by
  induction runs with
  | pure value state => simp
  | raise error state => simp
  | call called remaining ih =>
      intro event member
      rcases List.mem_cons.mp member with rfl | later
      · exact ⟨_, _, called⟩
      · exact ih event later

/-- What every call keeps and says of its event holds of all events of a run. -/
theorem Runs.forall_events {program : Program S ε α} {trace : List (Event S ε)}
    {result : Except ε α} {final : σ} {invariant : σ → Prop} {tells : Event S ε → Prop}
    (runs : program.Runs effect state trace result final)
    (each : ∀ op before reply after, invariant before → effect op before reply after →
      tells ⟨op, reply⟩ ∧ invariant after)
    (initially : invariant state) : ∀ event ∈ trace, tells event := by
  induction runs with
  | pure value state => simp
  | raise error state => simp
  | call called remaining ih =>
      obtain ⟨said, kept⟩ := each _ _ _ _ initially called
      intro event member
      rcases List.mem_cons.mp member with rfl | later
      · exact said
      · exact ih kept event later

/-- A run leaves a program that has ended. -/
theorem Runs.leads {program : Program S ε α} {trace : List (Event S ε)} {result : Except ε α}
    {final : σ} (runs : program.Runs effect state trace result final) :
    program.Leads effect state trace (ofExcept result) final := by
  induction runs with
  | pure value state => exact .here _ state
  | raise error state => exact .here _ state
  | call called remaining ih => exact .call called ih

/-- If every call is answered, the program runs to its end. -/
theorem exists_runs (answered : ∀ op state, ∃ reply after, effect op state reply after)
    (program : Program S ε α) (state : σ) :
    ∃ trace result final, program.Runs effect state trace result final := by
  induction program generalizing state with
  | pure value => exact ⟨_, _, _, .pure value state⟩
  | raise error => exact ⟨_, _, _, .raise error state⟩
  | call op resume ih =>
      obtain ⟨reply, middle, called⟩ := answered op state
      obtain ⟨rest, result, final, remaining⟩ := ih reply middle
      exact ⟨_, _, _, .call called remaining⟩

/-- What a program establishes whatever its calls reply, and what it calls. -/
theorem Always.uses {program : Program S ε α}
    {post : List (Event S ε) → Except ε α → σ → Prop} {allowed : S.Op → Prop}
    (always : program.Always effect state post) (uses : program.Uses allowed) :
    program.Always effect state fun trace result final =>
      post trace result final ∧ ∀ event ∈ trace, allowed event.op := by
  intro trace result final runs
  constructor
  · exact always trace result final runs
  · exact runs.uses uses

theorem Always.and {program : Program S ε α}
    {post other : List (Event S ε) → Except ε α → σ → Prop}
    (first : program.Always effect state post) (second : program.Always effect state other) :
    program.Always effect state fun trace result final =>
      post trace result final ∧ other trace result final :=
  fun _ _ _ runs => ⟨first _ _ _ runs, second _ _ _ runs⟩

/-- What every call of a program keeps, the program keeps. -/
theorem Uses.always {program : Program S ε α} {allowed : S.Op → Prop} {invariant : σ → Prop}
    (uses : program.Uses allowed)
    (kept : ∀ op before reply after, allowed op → effect op before reply after →
      invariant before → invariant after)
    (initially : invariant state) :
    program.Always effect state fun _ _ final => invariant final := by
  induction program generalizing state with
  | pure value => exact always_pure.mpr initially
  | raise error => exact always_raise.mpr initially
  | call op resume ih =>
      obtain ⟨permitted, rest⟩ := uses_call.mp uses
      rw [always_call]
      intro reply middle called
      exact ih reply (rest reply) (kept op state reply middle permitted called initially)

/-- One call that returns, and then the rest of the run. -/
theorem Runs.perform_bind {op : S.Op} {next : S.Reply op → Program S ε α} {value : S.Reply op}
    {middle final : σ} {trace : List (Event S ε)} {result : Except ε α}
    (called : effect op state (.ok value) middle)
    (remaining : (next value).Runs effect middle trace result final) :
    ((perform op).bind next).Runs effect state (⟨op, .ok value⟩ :: trace) result final :=
  .call called remaining

-- from here on the condition is used through the lemmas above only
attribute [irreducible] Always

theorem Returns.always {program : Program S ε α} {holds : α → Prop}
    (returns : program.Returns holds) :
    program.Always effect state fun _ result _ => ∀ value, result = .ok value → holds value := by
  induction program generalizing state with
  | pure value =>
      rw [always_pure]
      rintro other ⟨⟩
      exact returns_pure.mp returns
  | raise error =>
      rw [always_raise]
      rintro other ⟨⟩
  | call op resume ih =>
      rw [always_call]
      intro reply middle _
      exact ih reply (returns_call.mp returns reply)

/-! ## Programs that catch nothing -/

/-- The program returns if and only if none of its calls raises. -/
def Propagates (program : Program S ε α) (effect : Effect S ε σ) : Prop :=
  ∀ state, program.Always effect state fun trace result _ =>
    result.isOk = !trace.any Event.raised

theorem Propagates.pure (value : α) : (Program.pure value : Program S ε α).Propagates effect :=
  fun _ => always_pure.mpr rfl

theorem Propagates.bind {program : Program S ε α} {next : α → Program S ε β}
    (first : program.Propagates effect) (rest : ∀ value, (next value).Propagates effect) :
    (program.bind next).Propagates effect := by
  intro state
  apply always_bind.mpr
  apply (first state).mono
  intro trace result middle ended
  cases result with
  | error error => exact ended
  | ok value =>
      apply (rest value middle).mono
      intro later result final further
      have quiet : trace.any Event.raised = false := by
        simpa [Except.isOk, Except.toBool] using ended.symm
      rw [List.any_append, quiet, Bool.false_or]
      exact further

theorem Propagates.perform (op : S.Op) :
    (Program.perform op : Program S ε (S.Reply op)).Propagates effect := by
  intro state
  apply always_call.mpr
  intro reply middle called
  cases reply with
  | ok value => exact always_pure.mpr rfl
  | error error => exact always_raise.mpr rfl

/-! ## Programs that return -/

/-- Every run returns a value as said. -/
def Completes (program : Program S ε α) (effect : Effect S ε σ) (holds : α → Prop) : Prop :=
  ∀ state, program.Always effect state fun _ result _ => ∃ value, result = .ok value ∧ holds value

variable {holds : α → Prop} {fact : β → Prop}

theorem Completes.pure {value : α} (returned : holds value) :
    (Program.pure value : Program S ε α).Completes effect holds :=
  fun _ => always_pure.mpr ⟨value, rfl, returned⟩

theorem Completes.bind {program : Program S ε α} {next : α → Program S ε β}
    (first : program.Completes effect holds)
    (rest : ∀ value, holds value → (next value).Completes effect fact) :
    (program.bind next).Completes effect fact := by
  intro state
  apply always_bind.mpr
  apply (first state).mono
  rintro trace result middle ⟨value, rfl, returned⟩
  exact rest value returned middle

theorem Completes.perform_bind {op : S.Op} {next : S.Reply op → Program S ε α}
    {returns : S.Reply op → Prop}
    (answered : ∀ before reply after, effect op before reply after →
      ∃ value, reply = .ok value ∧ returns value)
    (rest : ∀ value, returns value → (next value).Completes effect holds) :
    ((Program.perform op).bind next).Completes effect holds := by
  intro state
  apply always_perform_bind
  · intro value middle called
    obtain ⟨other, same, returned⟩ := answered state _ middle called
    cases same
    exact rest value returned middle
  · intro error middle called
    obtain ⟨value, same, _⟩ := answered state _ middle called
    cases same

theorem Completes.attempt {program : Program S ε α} (completes : program.Completes effect holds) :
    program.attempt.Completes effect fun outcome => ∃ value, outcome = .ok value ∧
    holds value := by
  intro state
  apply always_attempt.mpr
  apply (completes state).mono
  rintro trace result final returned
  exact ⟨result, rfl, returned⟩

/-! ## Playing a run back -/

variable {ι : Type*}

/-- Run a program on given inputs, one for each of its calls. -/
def playback (execute : (op : S.Op) → ι → σ → Option (Except ε (S.Reply op) × σ)) :
    List ι → Program S ε α → σ → Option (List (Event S ε) × Except ε α × σ)
  | [], .pure value, state => some ([], .ok value, state)
  | [], .raise error, state => some ([], .error error, state)
  | input :: inputs, .call op resume, state =>
      (execute op input state).bind fun called =>
        (playback execute inputs (resume called.1) called.2).map fun rest =>
          (⟨op, called.1⟩ :: rest.1, rest.2)
  | _, _, _ => none

theorem runs_of_playback {execute : (op : S.Op) → ι → σ → Option (Except ε (S.Reply op) × σ)}
    (effective : ∀ op input before reply after,
      execute op input before = some (reply, after) → effect op before reply after)
    {inputs : List ι} {program : Program S ε α} {trace : List (Event S ε)}
    {result : Except ε α} {final : σ}
    (played : playback execute inputs program state = some (trace, result, final)) :
    program.Runs effect state trace result final := by
  induction inputs generalizing program state trace with
  | nil =>
      cases program with
      | pure value =>
          cases played
          exact .pure value _
      | raise error =>
          cases played
          exact .raise error _
      | call op resume => cases played
  | cons input inputs ih =>
      cases program with
      | pure value => cases played
      | raise error => cases played
      | call op resume =>
          obtain ⟨⟨reply, middle⟩, called, remaining⟩ := Option.bind_eq_some_iff.mp played
          obtain ⟨⟨rest, ending⟩, further, same⟩ := Option.map_eq_some_iff.mp remaining
          cases same
          exact .call (effective op input state reply middle called) (ih further)

end Program

end ResearchTool.Process
