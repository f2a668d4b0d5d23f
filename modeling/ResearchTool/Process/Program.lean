import Mathlib.Order.Defs.PartialOrder

/-!
# Programs over an effect signature

A program is the tree of its calls: every node asks the environment for one
operation and continues with the reply, which is a value or an exception.
Coroutine code is written in this monad once; the scheduler, the fault model
and the program logics of this directory all read the same tree.
-/

namespace ResearchTool.Process

universe u

/-- The operations a program may call, and the type of value each replies. -/
structure Signature where
  Op : Type u
  Reply : Op → Type u

/-- A program returning `α`, raising `ε`, or waiting for a reply. -/
inductive Program (S : Signature.{u}) (ε α : Type u) : Type u where
  | pure (value : α)
  | raise (error : ε)
  | call (op : S.Op) (resume : Except ε (S.Reply op) → Program S ε α)

namespace Program

variable {S : Signature.{u}} {ε α β γ : Type u}

/-- Sequencing: an exception of the first program skips the second. -/
def bind : Program S ε α → (α → Program S ε β) → Program S ε β
  | .pure value, next => next value
  | .raise error, _ => .raise error
  | .call op resume, next => .call op fun reply => (resume reply).bind next

instance : Monad (Program S ε) where
  pure := .pure
  bind := bind

/-- Call one operation and return its reply, raising what it raises. -/
def perform (op : S.Op) : Program S ε (S.Reply op) :=
  .call op fun
    | .ok value => .pure value
    | .error error => .raise error

/-- Return a computed result, or raise the exception that computing it raised. -/
def ofExcept : Except ε α → Program S ε α
  | .ok value => .pure value
  | .error error => .raise error

/-- Run a program to its outcome without propagating an exception.  The
`try` statements of the modelled code are an `attempt` followed by a match. -/
def attempt : Program S ε α → Program S ε (Except ε α)
  | .pure value => .pure (.ok value)
  | .raise error => .pure (.error error)
  | .call op resume => .call op fun reply => (resume reply).attempt

/-- The operation a suspended program waits for. -/
def pending : Program S ε α → Option S.Op
  | .call op _ => some op
  | _ => none

@[simp]
theorem pure_eq (value : α) : (Pure.pure value : Program S ε α) = .pure value :=
  rfl

@[simp]
theorem bind_eq (program : Program S ε α) (next : α → Program S ε β) :
    program >>= next = program.bind next :=
  rfl

@[simp]
theorem pure_bind (value : α) (next : α → Program S ε β) :
    (Program.pure value : Program S ε α).bind next = next value :=
  rfl

@[simp]
theorem raise_bind (error : ε) (next : α → Program S ε β) :
    (Program.raise error : Program S ε α).bind next = .raise error :=
  rfl

@[simp]
theorem call_bind (op : S.Op) (resume : Except ε (S.Reply op) → Program S ε α)
    (next : α → Program S ε β) :
    (Program.call op resume).bind next = .call op fun reply => (resume reply).bind next :=
  rfl

theorem bind_pure (program : Program S ε α) : program.bind .pure = program := by
  induction program with
  | pure value => rfl
  | raise error => rfl
  | call op resume ih =>
      rw [call_bind]
      congr 1
      funext reply
      exact ih reply

theorem bind_assoc (program : Program S ε α) (first : α → Program S ε β)
    (second : β → Program S ε γ) :
    (program.bind first).bind second = program.bind fun value => (first value).bind second := by
  induction program with
  | pure value => rfl
  | raise error => rfl
  | call op resume ih =>
      simp only [call_bind]
      congr 1
      funext reply
      exact ih reply

@[simp]
theorem ofExcept_ok (value : α) : (ofExcept (.ok value) : Program S ε α) = .pure value :=
  rfl

@[simp]
theorem ofExcept_error (error : ε) : (ofExcept (.error error) : Program S ε α) = .raise error :=
  rfl

/-- One call inside a `try` statement: the rest of the program gets the reply. -/
theorem attempt_perform_bind (op : S.Op) (next : Except ε (S.Reply op) → Program S ε α) :
    (attempt (perform op)).bind next = .call op next := by
  rw [perform, attempt, call_bind]
  congr 1
  funext reply
  cases reply <;> rfl

/-! ## Operations a program may call -/

/-- Every operation the program can ever call is allowed, whatever the replies. -/
def Uses (allowed : S.Op → Prop) : Program S ε α → Prop
  | .pure _ => True
  | .raise _ => True
  | .call op resume => allowed op ∧ ∀ reply, (resume reply).Uses allowed

variable {allowed : S.Op → Prop}

@[simp]
theorem uses_pure (value : α) : (Program.pure value : Program S ε α).Uses allowed :=
  trivial

@[simp]
theorem uses_raise (error : ε) : (Program.raise error : Program S ε α).Uses allowed :=
  trivial

theorem uses_call {op : S.Op} {resume : Except ε (S.Reply op) → Program S ε α} :
    (Program.call op resume).Uses allowed ↔ allowed op ∧ ∀ reply, (resume reply).Uses allowed :=
  Iff.rfl

theorem Uses.perform {op : S.Op} (permitted : allowed op) :
    (Program.perform op : Program S ε (S.Reply op)).Uses allowed :=
  ⟨permitted, fun reply => by cases reply <;> trivial⟩

@[simp]
theorem uses_ofExcept (result : Except ε α) :
    (ofExcept result : Program S ε α).Uses allowed := by
  cases result <;> trivial

theorem Uses.bind {program : Program S ε α} {next : α → Program S ε β}
    (first : program.Uses allowed) (rest : ∀ value, (next value).Uses allowed) :
    (program.bind next).Uses allowed := by
  induction program with
  | pure value => exact rest value
  | raise error => trivial
  | call op resume ih => exact ⟨first.1, fun reply => ih reply (first.2 reply)⟩

/-- One permitted call and the rest of the program. -/
theorem Uses.perform_bind {op : S.Op} {next : S.Reply op → Program S ε α} (permitted : allowed op)
    (rest : ∀ value, (next value).Uses allowed) :
    ((Program.perform op).bind next).Uses allowed :=
  .bind (.perform permitted) rest

theorem Uses.attempt {program : Program S ε α} (uses : program.Uses allowed) :
    program.attempt.Uses allowed := by
  induction program with
  | pure value => trivial
  | raise error => trivial
  | call op resume ih => exact ⟨uses.1, fun reply => ih reply (uses.2 reply)⟩

theorem Uses.mono {other : S.Op → Prop} {program : Program S ε α}
    (uses : program.Uses allowed) (implies : ∀ op, allowed op → other op) :
    program.Uses other := by
  induction program with
  | pure value => trivial
  | raise error => trivial
  | call op resume ih => exact ⟨implies op uses.1, fun reply => ih reply (uses.2 reply)⟩

theorem Uses.and {other : S.Op → Prop} {program : Program S ε α} (first : program.Uses allowed)
    (second : program.Uses other) : program.Uses fun op => allowed op ∧ other op := by
  induction program with
  | pure value => trivial
  | raise error => trivial
  | call op resume ih =>
      exact ⟨⟨first.1, second.1⟩, fun reply => ih reply (first.2 reply) (second.2 reply)⟩

/-- The call a program waits for is one of its calls. -/
theorem Uses.pending {program : Program S ε α} {op : S.Op} (uses : program.Uses allowed)
    (waits : program.pending = some op) : allowed op := by
  cases program with
  | pure value => cases waits
  | raise error => cases waits
  | call other resume =>
      cases waits
      exact uses.1

-- from here on programs are taken apart by the lemmas above only
attribute [irreducible] Uses

/-! ## Operations a program calls at most once -/

/-- No call of such an operation comes after another, whatever the replies. -/
def AtMostOnce (special : S.Op → Prop) : Program S ε α → Prop
  | .pure _ => True
  | .raise _ => True
  | .call op resume =>
      (special op → ∀ reply, (resume reply).Uses fun other => ¬ special other) ∧
        ∀ reply, (resume reply).AtMostOnce special

variable {special : S.Op → Prop}

theorem atMostOnce_call {op : S.Op} {resume : Except ε (S.Reply op) → Program S ε α} :
    (Program.call op resume).AtMostOnce special ↔
      (special op → ∀ reply, (resume reply).Uses fun other => ¬ special other) ∧
        ∀ reply, (resume reply).AtMostOnce special :=
  Iff.rfl

/-- A program that never calls such an operation. -/
theorem Uses.atMostOnce {program : Program S ε α} (uses : program.Uses fun op => ¬ special op) :
    program.AtMostOnce special := by
  induction program with
  | pure value => trivial
  | raise error => trivial
  | call op resume ih =>
      obtain ⟨plain, rest⟩ := uses_call.mp uses
      exact ⟨fun called => absurd called plain, fun reply => ih reply (rest reply)⟩

theorem atMostOnce_perform (op : S.Op) :
    (Program.perform op : Program S ε (S.Reply op)).AtMostOnce special := by
  constructor
  · intro _ reply
    cases reply with
    | ok value => exact uses_pure value
    | error error => exact uses_raise error
  · intro reply
    cases reply <;> trivial

/-- Nothing of the kind is called before. -/
theorem AtMostOnce.after {program : Program S ε α} {next : α → Program S ε β}
    (first : program.Uses fun op => ¬ special op)
    (rest : ∀ value, (next value).AtMostOnce special) :
    (program.bind next).AtMostOnce special := by
  induction program with
  | pure value => exact rest value
  | raise error => trivial
  | call op resume ih =>
      obtain ⟨plain, remaining⟩ := uses_call.mp first
      exact ⟨fun called => absurd called plain, fun reply => ih reply (remaining reply)⟩

/-- Nothing of the kind is called afterwards. -/
theorem AtMostOnce.before {program : Program S ε α} {next : α → Program S ε β}
    (first : program.AtMostOnce special)
    (rest : ∀ value, (next value).Uses fun op => ¬ special op) :
    (program.bind next).AtMostOnce special := by
  induction program with
  | pure value => exact (rest value).atMostOnce
  | raise error => trivial
  | call op resume ih =>
      exact ⟨fun called reply => (first.1 called reply).bind rest,
        fun reply => ih reply (first.2 reply)⟩

theorem AtMostOnce.attempt {program : Program S ε α} (once : program.AtMostOnce special) :
    program.attempt.AtMostOnce special := by
  induction program with
  | pure value => trivial
  | raise error => trivial
  | call op resume ih =>
      exact ⟨fun called reply => (once.1 called reply).attempt,
        fun reply => ih reply (once.2 reply)⟩

attribute [irreducible] AtMostOnce

/-! ## Values a program may return -/

/-- Every value the program can ever return is as said, whatever the replies. -/
def Returns (holds : α → Prop) : Program S ε α → Prop
  | .pure value => holds value
  | .raise _ => True
  | .call _ resume => ∀ reply, (resume reply).Returns holds

variable {holds : α → Prop} {fact : β → Prop}

theorem returns_pure {value : α} :
    (Program.pure value : Program S ε α).Returns holds ↔ holds value :=
  Iff.rfl

@[simp]
theorem returns_raise {error : ε} : (Program.raise error : Program S ε α).Returns holds :=
  trivial

theorem returns_call {op : S.Op} {resume : Except ε (S.Reply op) → Program S ε α} :
    (Program.call op resume).Returns holds ↔ ∀ reply, (resume reply).Returns holds :=
  Iff.rfl

theorem Returns.bind {program : Program S ε α} {next : α → Program S ε β}
    (first : program.Returns holds) (rest : ∀ value, holds value → (next value).Returns fact) :
    (program.bind next).Returns fact := by
  induction program with
  | pure value => exact rest value first
  | raise error => trivial
  | call op resume ih => exact fun reply => ih reply (first reply)

theorem returns_of_forall (program : Program S ε α) (holds : α → Prop)
    (always : ∀ value, holds value) :
    program.Returns holds := by
  induction program with
  | pure value => exact always value
  | raise error => trivial
  | call op resume ih => exact fun reply => ih reply

/-- One call and the rest of the program. -/
theorem Returns.perform_bind {op : S.Op} {next : S.Reply op → Program S ε α}
    (rest : ∀ value, (next value).Returns holds) :
    ((Program.perform op).bind next).Returns holds :=
  .bind (returns_of_forall _ _ fun _ => trivial) fun value (_ : True) => rest value

attribute [irreducible] Returns

/-! ## Calls that settle how a program ends -/

/-- While its calls return, so does the program. -/
def Succeeds : Program S ε α → Prop
  | .pure _ => True
  | .raise _ => False
  | .call _ resume => ∀ value, (resume (.ok value)).Succeeds

/-- After a call of the first kind the program makes calls of the second kind only,
and if that call returns, it returns as long as they do. -/
def Commits (mark later : S.Op → Prop) : Program S ε α → Prop
  | .pure _ => True
  | .raise _ => True
  | .call op resume =>
      (mark op → (∀ reply, (resume reply).Uses later) ∧ ∀ value, (resume (.ok value)).Succeeds) ∧
        ∀ reply, (resume reply).Commits mark later

variable {mark later : S.Op → Prop}

@[simp]
theorem succeeds_pure (value : α) : (Program.pure value : Program S ε α).Succeeds :=
  trivial

theorem not_succeeds_raise (error : ε) : ¬ (Program.raise error : Program S ε α).Succeeds :=
  id

theorem succeeds_call {op : S.Op} {resume : Except ε (S.Reply op) → Program S ε α} :
    (Program.call op resume).Succeeds ↔ ∀ value, (resume (.ok value)).Succeeds :=
  Iff.rfl

theorem succeeds_perform_bind {op : S.Op} {next : S.Reply op → Program S ε α} :
    ((Program.perform op).bind next).Succeeds ↔ ∀ value, (next value).Succeeds :=
  Iff.rfl

theorem succeeds_perform (op : S.Op) : (Program.perform op : Program S ε (S.Reply op)).Succeeds :=
  fun value => succeeds_pure value

theorem Succeeds.bind {program : Program S ε β} {next : β → Program S ε α}
    (first : program.Succeeds) (rest : ∀ value, (next value).Succeeds) :
    (program.bind next).Succeeds := by
  induction program with
  | pure value => exact rest value
  | raise error => exact first.elim
  | call op resume ih => exact fun value => ih _ (first value)

/-- Caught, a program that succeeds ends in a value. -/
theorem Succeeds.attempt_bind {program : Program S ε β} {next : Except ε β → Program S ε α}
    (first : program.Succeeds) (rest : ∀ value, (next (.ok value)).Succeeds) :
    (program.attempt.bind next).Succeeds := by
  induction program with
  | pure value => exact rest value
  | raise error => exact first.elim
  | call op resume ih => exact fun value => ih _ (first value)

theorem commits_call {op : S.Op} {resume : Except ε (S.Reply op) → Program S ε α} :
    (Program.call op resume).Commits mark later ↔
      (mark op → (∀ reply, (resume reply).Uses later) ∧
        ∀ value, (resume (.ok value)).Succeeds) ∧
        ∀ reply, (resume reply).Commits mark later :=
  Iff.rfl

@[simp]
theorem commits_pure (value : α) : (Program.pure value : Program S ε α).Commits mark later :=
  trivial

@[simp]
theorem commits_raise (error : ε) : (Program.raise error : Program S ε α).Commits mark later :=
  trivial

/-- One call that may be of the first kind, and the rest of the program. -/
theorem Commits.perform_bind {op : S.Op} {next : S.Reply op → Program S ε α}
    (uses : ∀ value, (next value).Uses later) (succeeds : ∀ value, (next value).Succeeds)
    (rest : ∀ value, (next value).Commits mark later) :
    ((Program.perform op).bind next).Commits mark later := by
  refine ⟨fun _ => ⟨?_, succeeds⟩, ?_⟩
  · intro reply
    cases reply with
    | ok value => exact uses value
    | error error => exact uses_raise error
  · intro reply
    cases reply with
    | ok value => exact rest value
    | error error => trivial

/-- A program without a call of the first kind. -/
theorem Uses.commits {program : Program S ε α} (uses : program.Uses fun op => ¬ mark op) :
    program.Commits mark later := by
  induction program with
  | pure value => trivial
  | raise error => trivial
  | call op resume ih =>
      obtain ⟨plain, rest⟩ := uses_call.mp uses
      exact ⟨fun marked => absurd marked plain, fun reply => ih reply (rest reply)⟩

/-- Nothing of the first kind is called before. -/
theorem Commits.after {program : Program S ε β} {next : β → Program S ε α}
    (first : program.Uses fun op => ¬ mark op)
    (rest : ∀ value, (next value).Commits mark later) :
    (program.bind next).Commits mark later := by
  induction program with
  | pure value => exact rest value
  | raise error => trivial
  | call op resume ih =>
      obtain ⟨plain, remaining⟩ := uses_call.mp first
      exact ⟨fun marked => absurd marked plain, fun reply => ih reply (remaining reply)⟩

/-- What follows is of the second kind. -/
theorem Commits.bind {program : Program S ε β} {next : β → Program S ε α}
    (first : program.Commits mark later) (uses : ∀ value, (next value).Uses later)
    (succeeds : ∀ value, (next value).Succeeds)
    (rest : ∀ value, (next value).Commits mark later) :
    (program.bind next).Commits mark later := by
  induction program with
  | pure value => exact rest value
  | raise error => trivial
  | call op resume ih =>
      refine ⟨fun marked => ?_, fun reply => ih reply (first.2 reply)⟩
      obtain ⟨remaining, returning⟩ := first.1 marked
      exact ⟨fun reply => (remaining reply).bind uses,
        fun value => (returning value).bind succeeds⟩

/-- What follows the caught program is of the second kind. -/
theorem Commits.attempt_bind {program : Program S ε β} {next : Except ε β → Program S ε α}
    (first : program.Commits mark later) (uses : ∀ outcome, (next outcome).Uses later)
    (succeeds : ∀ value, (next (.ok value)).Succeeds)
    (rest : ∀ outcome, (next outcome).Commits mark later) :
    (program.attempt.bind next).Commits mark later := by
  induction program with
  | pure value => exact rest (.ok value)
  | raise error => exact rest (.error error)
  | call op resume ih =>
      refine ⟨fun marked => ?_, fun reply => ih reply (first.2 reply)⟩
      obtain ⟨remaining, returning⟩ := first.1 marked
      exact ⟨fun reply => (remaining reply).attempt.bind uses,
        fun value => (returning value).attempt_bind succeeds⟩

attribute [irreducible] Succeeds Commits

end Program

end ResearchTool.Process
