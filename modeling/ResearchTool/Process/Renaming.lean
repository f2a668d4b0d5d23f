import ResearchTool.Process.Program

/-!
# Programs under other names

A program may name things of its environment in the operations it calls.  If
the environment knows them by other names, the program calls other operations,
which reply the same kinds of values; apart from that it is the same program.
-/

namespace ResearchTool.Process

universe u

variable {S : Signature.{u}} {ε α β : Type u}

/-- Other names for the operations.  A renamed operation replies what the
original one does. -/
structure Renaming (S : Signature.{u}) where
  op : S.Op → S.Op
  reply : ∀ original, S.Reply (op original) = S.Reply original

/-- The reply to a renamed operation as one to the original. -/
def Renaming.restore (names : Renaming S) (op : S.Op)
    (reply : Except ε (S.Reply (names.op op))) : Except ε (S.Reply op) :=
  cast (congrArg (Except ε) (names.reply op)) reply

theorem Renaming.restore_error (names : Renaming S) (op : S.Op) (error : ε) :
    names.restore op (.error error) = .error error := by
  have casts : ∀ {first second : Type u} (same : first = second),
      cast (congrArg (Except ε) same) (.error error) = .error error := by
    rintro _ _ rfl
    rfl
  exact casts (names.reply op)

namespace Program

/-- The program that calls the renamed operations. -/
def rename (names : Renaming S) : Program S ε α → Program S ε α
  | .pure value => .pure value
  | .raise error => .raise error
  | .call op resume =>
      .call (names.op op) fun reply => (resume (names.restore op reply)).rename names

variable {names : Renaming S}

@[simp]
theorem rename_pure (value : α) :
    (Program.pure value : Program S ε α).rename names = .pure value :=
  rfl

@[simp]
theorem rename_raise (error : ε) :
    (Program.raise error : Program S ε α).rename names = .raise error :=
  rfl

theorem rename_bind (program : Program S ε α) (next : α → Program S ε β) :
    (program.bind next).rename names =
      (program.rename names).bind fun value => (next value).rename names := by
  induction program with
  | pure value => rfl
  | raise error => rfl
  | call op resume ih =>
      rw [call_bind, rename, rename, call_bind]
      congr 1
      funext reply
      exact ih _

theorem pending_rename (program : Program S ε α) :
    (program.rename names).pending = program.pending.map names.op := by
  cases program <;> rfl

/-- An operation that keeps its name is called as before. -/
theorem call_restore {op : S.Op} (kept : names.op op = op)
    (resume : Except ε (S.Reply op) → Program S ε α) :
    (Program.call (names.op op) fun reply => resume (names.restore op reply)) =
      .call op resume := by
  have calls : ∀ (other : S.Op) (same : S.Reply other = S.Reply op), other = op →
      (Program.call other fun reply => resume (cast (congrArg (Except ε) same) reply)) =
        .call op resume := by
    rintro _ same rfl
    rfl
  exact calls _ (names.reply op) kept

/-- A program that calls no renamed operation stays as it is. -/
theorem rename_of_uses {program : Program S ε α}
    (uses : program.Uses fun op => names.op op = op) : program.rename names = program := by
  induction program with
  | pure value => rfl
  | raise error => rfl
  | call op resume ih =>
      obtain ⟨kept, rest⟩ := uses_call.mp uses
      have same : ∀ reply, (resume reply).rename names = resume reply :=
        fun reply => ih reply (rest reply)
      simp only [rename, same]
      exact call_restore kept resume

end Program

end ResearchTool.Process
