import ResearchTool.Process.Program

/-!
# Assertions for programs under interference

A protocol fixes what a call may do to the shared state, what the other
processes may do between two calls (`rely`), and what every call of this
process owes them in return (`guarantee`).  `Safe` is the assertion that a
suspended program keeps its side of the protocol from the current state on,
whatever replies it gets, and that its outcome meets the postcondition.
-/

namespace ResearchTool.Process

universe u v

/-- The terms on which one process shares the state `σ` with all others. -/
structure Protocol (S : Signature.{u}) (ε : Type u) (σ : Type v) where
  /-- What every process keeps true of the shared state. -/
  invariant : σ → Prop
  /-- What the other processes may do between two calls. -/
  rely : σ → σ → Prop
  /-- What one call may reply and how it may change the state. -/
  effect : (op : S.Op) → σ → Except ε (S.Reply op) → σ → Prop
  /-- What a call of this process owes the others. -/
  guarantee : σ → σ → Prop
  rely_refl : ∀ state, rely state state
  rely_trans : ∀ {first second third}, rely first second → rely second third → rely first third

namespace Program

variable {S : Signature.{u}} {ε α β : Type u} {σ : Type v}

/-- The program keeps the protocol from `state` on and ends in `post`. -/
def Safe (P : Protocol S ε σ) (post : Except ε α → σ → Prop) : Program S ε α → σ → Prop
  | .pure value, state => ∀ now, P.invariant now → P.rely state now → post (.ok value) now
  | .raise error, state => ∀ now, P.invariant now → P.rely state now → post (.error error) now
  | .call op resume, state =>
      ∀ now reply after, P.invariant now → P.rely state now → P.effect op now reply after →
        P.invariant after ∧ P.guarantee now after ∧ (resume reply).Safe P post after

variable {P : Protocol S ε σ} {post : Except ε α → σ → Prop}

theorem safe_pure {value : α} {state : σ} :
    (Program.pure value : Program S ε α).Safe P post state ↔
      ∀ now, P.invariant now → P.rely state now → post (.ok value) now :=
  Iff.rfl

theorem safe_raise {error : ε} {state : σ} :
    (Program.raise error : Program S ε α).Safe P post state ↔
      ∀ now, P.invariant now → P.rely state now → post (.error error) now :=
  Iff.rfl

theorem safe_call {op : S.Op} {resume : Except ε (S.Reply op) → Program S ε α} {state : σ} :
    (Program.call op resume).Safe P post state ↔
      ∀ now reply after, P.invariant now → P.rely state now → P.effect op now reply after →
        P.invariant after ∧ P.guarantee now after ∧ (resume reply).Safe P post after :=
  Iff.rfl

/-- Interference before the next call leaves a safe program safe. -/
theorem Safe.interfere {program : Program S ε α} {state now : σ}
    (safe : program.Safe P post state) (moved : P.rely state now) :
    program.Safe P post now := by
  cases program with
  | pure value => exact fun later kept further => safe later kept (P.rely_trans moved further)
  | raise error => exact fun later kept further => safe later kept (P.rely_trans moved further)
  | call op resume =>
      intro later reply after kept further replied
      exact safe later reply after kept (P.rely_trans moved further) replied

theorem Safe.weaken {program : Program S ε α} {state : σ} {other : Except ε α → σ → Prop}
    (safe : program.Safe P post state)
    (implies : ∀ outcome now, P.invariant now → post outcome now → other outcome now) :
    program.Safe P other state := by
  induction program generalizing state with
  | pure value => exact fun now kept moved => implies _ now kept (safe now kept moved)
  | raise error => exact fun now kept moved => implies _ now kept (safe now kept moved)
  | call op resume ih =>
      intro now reply after kept moved replied
      obtain ⟨keptAfter, owed, rest⟩ := safe now reply after kept moved replied
      exact ⟨keptAfter, owed, ih reply rest⟩

/-- A process that owes the others what it relies on itself ends in a state
that the rely relates to the one it started in. -/
theorem Safe.frame (cooperative : ∀ {before after}, P.guarantee before after → P.rely before after)
    {program : Program S ε α} {state : σ} (safe : program.Safe P post state) :
    program.Safe P (fun outcome now => P.rely state now ∧ post outcome now) state := by
  suffices framed : ∀ {start}, P.rely start state →
      program.Safe P (fun outcome now => P.rely start now ∧ post outcome now) state from
    framed (P.rely_refl state)
  intro start reached
  induction program generalizing state with
  | pure value => exact fun now kept moved => ⟨P.rely_trans reached moved, safe now kept moved⟩
  | raise error => exact fun now kept moved => ⟨P.rely_trans reached moved, safe now kept moved⟩
  | call op resume ih =>
      intro now reply after kept moved replied
      obtain ⟨keptAfter, owed, rest⟩ := safe now reply after kept moved replied
      exact ⟨keptAfter, owed, ih reply rest
        (P.rely_trans (P.rely_trans reached moved) (cooperative owed))⟩

/-- Sequencing: the second program starts in any state the first may end in. -/
theorem Safe.bind {program : Program S ε α} {next : α → Program S ε β} {state : σ}
    {post : Except ε β → σ → Prop} {middle : Except ε α → σ → Prop}
    (first : program.Safe P middle state)
    (kept : P.invariant state)
    (resume : ∀ value now, P.invariant now → middle (.ok value) now →
      (next value).Safe P post now)
    (failed : ∀ error now, P.invariant now → middle (.error error) now →
      post (.error error) now) :
    (program.bind next).Safe P post state := by
  induction program generalizing state with
  | pure value => exact resume value state kept (first state kept (P.rely_refl state))
  | raise error =>
      exact fun now keptNow moved => failed error now keptNow (first now keptNow moved)
  | call op rest ih =>
      intro now reply after keptNow moved replied
      obtain ⟨keptAfter, owed, remaining⟩ := first now reply after keptNow moved replied
      exact ⟨keptAfter, owed, ih reply remaining keptAfter⟩

/-- What the program can return at all, it returns in a safe run. -/
theorem Safe.returning {program : Program S ε α} {state : σ} {holds : α → Prop}
    (safe : program.Safe P post state) (returns : program.Returns holds) :
    program.Safe P (fun outcome now => post outcome now ∧ ∀ value, outcome = .ok value →
      holds value)
      state := by
  induction program generalizing state with
  | pure value =>
      intro now kept moved
      refine ⟨safe now kept moved, ?_⟩
      rintro other ⟨⟩
      exact returns_pure.mp returns
  | raise error =>
      intro now kept moved
      refine ⟨safe now kept moved, ?_⟩
      rintro other ⟨⟩
  | call op resume ih =>
      intro now reply after kept moved replied
      obtain ⟨keptAfter, owed, rest⟩ := safe now reply after kept moved replied
      exact ⟨keptAfter, owed, ih reply rest (returns_call.mp returns reply)⟩

/-- Catching: the outcome of the caught program is the value of `attempt`. -/
theorem Safe.attempt {program : Program S ε α} {state : σ}
    {post : Except ε (Except ε α) → σ → Prop}
    (safe : program.Safe P (fun outcome => post (.ok outcome)) state) :
    program.attempt.Safe P post state := by
  induction program generalizing state with
  | pure value => exact safe
  | raise error => exact safe
  | call op resume ih =>
      intro now reply after kept moved replied
      obtain ⟨keptAfter, owed, rest⟩ := safe now reply after kept moved replied
      exact ⟨keptAfter, owed, ih reply rest⟩

/-- One call followed by the rest of the program. -/
theorem Safe.perform_bind {op : S.Op} {next : S.Reply op → Program S ε α} {state : σ}
    (called : ∀ now reply after, P.invariant now → P.rely state now →
      P.effect op now reply after → P.invariant after ∧ P.guarantee now after ∧
        ((∀ value, reply = .ok value → (next value).Safe P post after) ∧
          ∀ error, reply = .error error → (Program.raise error).Safe P post after)) :
    ((perform op).bind next).Safe P post state := by
  intro now reply after kept moved replied
  obtain ⟨keptAfter, owed, succeeded, failed⟩ := called now reply after kept moved replied
  refine ⟨keptAfter, owed, ?_⟩
  cases reply with
  | ok value => exact succeeded value rfl
  | error error => exact failed error rfl

/-- What a program ends in, the others leave. -/
theorem Safe.stable {program : Program S ε α} {state : σ} (safe : program.Safe P post state) :
    program.Safe P (fun outcome now => ∀ later, P.invariant later → P.rely now later →
      post outcome later) state := by
  induction program generalizing state with
  | pure value =>
      intro now _ moved later kept further
      exact safe later kept (P.rely_trans moved further)
  | raise error =>
      intro now _ moved later kept further
      exact safe later kept (P.rely_trans moved further)
  | call op resume ih =>
      intro now reply after kept moved replied
      obtain ⟨keptAfter, owed, rest⟩ := safe now reply after kept moved replied
      exact ⟨keptAfter, owed, ih reply rest⟩

/-- A fact that every call and the others keep holds at the end as well. -/
theorem Safe.keeping {program : Program S ε α} {state : σ} {fact : σ → Prop}
    (safe : program.Safe P post state)
    (kept : ∀ op before reply after, fact before → P.effect op before reply after → fact after)
    (stable : ∀ before after, P.rely before after → fact before → fact after)
    (initially : fact state) :
    program.Safe P (fun outcome now => post outcome now ∧ fact now) state := by
  induction program generalizing state with
  | pure value =>
      intro now keptNow moved
      exact ⟨safe now keptNow moved, stable state now moved initially⟩
  | raise error =>
      intro now keptNow moved
      exact ⟨safe now keptNow moved, stable state now moved initially⟩
  | call op resume ih =>
      intro now reply after keptNow moved replied
      obtain ⟨keptAfter, owed, rest⟩ := safe now reply after keptNow moved replied
      exact ⟨keptAfter, owed,
        ih reply rest (kept op now reply after (stable state now moved initially) replied)⟩

/-- A program of calls that keep a fact, which the others leave as well. -/
theorem Uses.safe {program : Program S ε α} {state : σ} {allowed : S.Op → Prop} {fact : σ → Prop}
    (uses : program.Uses allowed)
    (kept : ∀ op before reply after, allowed op → P.invariant before → fact before →
      P.effect op before reply after →
        P.invariant after ∧ P.guarantee before after ∧ fact after)
    (stable : ∀ before after, P.rely before after → fact before → fact after)
    (initially : fact state) : program.Safe P (fun _ now => fact now) state := by
  induction program generalizing state with
  | pure value => exact fun now _ moved => stable state now moved initially
  | raise error => exact fun now _ moved => stable state now moved initially
  | call op resume ih =>
      obtain ⟨permitted, rest⟩ := uses_call.mp uses
      intro now reply after keptNow moved replied
      obtain ⟨keptAfter, owed, still⟩ :=
        kept op now reply after permitted keptNow (stable state now moved initially) replied
      exact ⟨keptAfter, owed, ih reply (rest reply) still⟩

/-- A program that is safe on some terms is safe on stricter ones, as long as
its calls keep a fact from which the terms follow. -/
theorem Safe.under {program : Program S ε α} {state : σ} {Q : Protocol S ε σ}
    {allowed : S.Op → Prop} {fact : σ → Prop} (safe : program.Safe P post state)
    (uses : program.Uses allowed) (invariant : ∀ now, fact now → P.invariant now)
    (rely : ∀ before after, Q.rely before after → P.rely before after)
    (effect : ∀ op before reply after, Q.effect op before reply after →
      P.effect op before reply after)
    (stable : ∀ before after, Q.rely before after → fact before → fact after)
    (kept : ∀ op before reply after, allowed op → fact before → Q.effect op before reply after →
      fact after ∧ Q.invariant after ∧ Q.guarantee before after)
    (initially : fact state) :
    program.Safe Q (fun outcome now => fact now ∧ post outcome now) state := by
  induction program generalizing state with
  | pure value =>
      intro now _ moved
      have holds := stable state now moved initially
      exact ⟨holds, safe now (invariant now holds) (rely state now moved)⟩
  | raise error =>
      intro now _ moved
      have holds := stable state now moved initially
      exact ⟨holds, safe now (invariant now holds) (rely state now moved)⟩
  | call op resume ih =>
      obtain ⟨permitted, rest⟩ := uses_call.mp uses
      intro now reply after _ moved replied
      have holds := stable state now moved initially
      obtain ⟨-, -, remaining⟩ := safe now reply after (invariant now holds)
        (rely state now moved) (effect op now reply after replied)
      obtain ⟨still, keptAfter, owed⟩ := kept op now reply after permitted holds replied
      exact ⟨keptAfter, owed, ih reply remaining (rest reply) still⟩

-- from here on the assertion is used through the lemmas above only
attribute [irreducible] Safe

end Program

/-! ## Phases -/

section

variable {S : Signature.{u}} {ε α β : Type u} {σ : Type v}

/-- A phase of a process: a fact that the calls of the phase and the others keep,
and from which the invariant follows. -/
structure Phase (P : Protocol S ε σ) where
  allowed : S.Op → Prop
  fact : σ → Prop
  implies : ∀ {state}, fact state → P.invariant state
  stable : ∀ {before after}, P.rely before after → fact before → fact after
  kept : ∀ {op before reply after}, allowed op → fact before → P.effect op before reply after →
    fact after ∧ P.guarantee before after

namespace Phase

variable {P Q : Protocol S ε σ} (phase : Phase P) {state : σ}

/-- One call of a phase, and then another program. -/
theorem await {op : S.Op} {next : S.Reply op → Program S ε α} (holds : phase.fact state)
    (allowed : phase.allowed op)
    (rest : ∀ value before now, P.rely state before → P.effect op before (.ok value) now →
      phase.fact now → (next value).Safe P (fun _ now => P.invariant now) now) :
    ((Program.perform op).bind next).Safe P (fun _ now => P.invariant now) state := by
  apply Program.Safe.perform_bind
  intro before reply now _ moved replied
  obtain ⟨still, owed⟩ := phase.kept allowed (phase.stable moved holds) replied
  refine ⟨phase.implies still, owed, ?_, ?_⟩
  · rintro value rfl
    exact rest value before now moved replied still
  · rintro error rfl
    exact Program.safe_raise.mpr fun _ kept _ => kept

/-- A program of calls of a phase that is safe on some weaker terms, and then another. -/
theorem bind {program : Program S ε β} {next : β → Program S ε α}
    {post : Except ε β → σ → Prop} (holds : phase.fact state)
    (uses : program.Uses phase.allowed) (safe : program.Safe Q post state)
    (invariant : ∀ now, phase.fact now → Q.invariant now)
    (rely : ∀ before after, P.rely before after → Q.rely before after)
    (effect : ∀ op before reply after, P.effect op before reply after →
      Q.effect op before reply after)
    (rest : ∀ value now, phase.fact now → post (.ok value) now →
      (next value).Safe P (fun _ now => P.invariant now) now) :
    (program.bind next).Safe P (fun _ now => P.invariant now) state := by
  have kept : program.Safe P (fun outcome now => phase.fact now ∧ post outcome now) state := by
    apply safe.under uses invariant rely effect
    · exact fun _ _ moved held => phase.stable moved held
    · intro op before reply after allowed held replied
      obtain ⟨still, owed⟩ := phase.kept allowed held replied
      exact ⟨still, phase.implies still, owed⟩
    · exact holds
  apply kept.bind (phase.implies holds)
  · rintro value now - ⟨still, ended⟩
    exact rest value now still ended
  · exact fun _ _ kept _ => kept

/-- A program of calls of a phase. -/
theorem safe {program : Program S ε α} (holds : phase.fact state)
    (uses : program.Uses phase.allowed) : program.Safe P (fun _ now => phase.fact now) state := by
  apply uses.safe
  · intro op before reply after allowed _ held replied
    obtain ⟨still, owed⟩ := phase.kept allowed held replied
    exact ⟨phase.implies still, owed, still⟩
  · exact fun _ _ moved held => phase.stable moved held
  · exact holds

/-- A program of calls of a phase, whatever it returns, and then another. -/
theorem thereafter {program : Program S ε β} {next : β → Program S ε α}
    (holds : phase.fact state) (uses : program.Uses phase.allowed)
    (rest : ∀ value now, phase.fact now →
      (next value).Safe P (fun _ now => P.invariant now) now) :
    (program.bind next).Safe P (fun _ now => P.invariant now) state := by
  apply (phase.safe holds uses).bind (phase.implies holds)
  · intro value now _ still
    exact rest value now still
  · exact fun _ _ kept _ => kept

/-- A program that does not leave the phase. -/
theorem last {program : Program S ε α} (holds : phase.fact state)
    (uses : program.Uses phase.allowed) :
    program.Safe P (fun _ now => P.invariant now) state :=
  (phase.safe holds uses).weaken fun _ _ kept _ => kept

end Phase

end

end ResearchTool.Process
