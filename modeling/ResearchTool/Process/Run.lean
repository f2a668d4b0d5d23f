import Mathlib.Data.Option.Basic

/-!
# Runs under a condition

A transition system is a partial step function.  A run is a list of actions;
`runWithin` also asks a condition of every step, which may look at the action
and at the state it is taken in.
-/

namespace ResearchTool.Process

universe u v

variable {σ : Type u} {α : Type v}

/-- The state after `actions`, if every step is possible and permitted. -/
def runWithin (step : α → σ → Option σ) (permits : α → σ → Bool) : List α → σ → Option σ
  | [], state => some state
  | action :: rest, state =>
      if permits action state then (step action state).bind (runWithin step permits rest)
      else none

/-- A run without a condition on its steps. -/
abbrev run (step : α → σ → Option σ) : List α → σ → Option σ :=
  runWithin step fun _ _ => true

variable {step : α → σ → Option σ} {permits : α → σ → Bool}

theorem runWithin_cons_eq_some_iff {action : α} {rest : List α} {state final : σ} :
    runWithin step permits (action :: rest) state = some final ↔
      permits action state ∧ ∃ next, step action state = some next ∧
        runWithin step permits rest next = some final := by
  rw [runWithin]
  split
  · simp [*, Option.bind_eq_some_iff]
  · simp [*]

theorem runWithin_append_eq_some_iff {first second : List α} {state final : σ} :
    runWithin step permits (first ++ second) state = some final ↔
      ∃ middle, runWithin step permits first state = some middle ∧
        runWithin step permits second middle = some final := by
  induction first generalizing state with
  | nil => simp [runWithin]
  | cons action rest ih =>
      simp only [List.cons_append, runWithin_cons_eq_some_iff, ih]
      constructor
      · rintro ⟨permitted, next, moved, middle, head, tail⟩
        exact ⟨middle, ⟨permitted, next, moved, head⟩, tail⟩
      · rintro ⟨middle, ⟨permitted, next, moved, head⟩, tail⟩
        exact ⟨permitted, next, moved, middle, head, tail⟩

/-- What every permitted step preserves holds at the end of a permitted run. -/
theorem runWithin_induction (invariant : σ → Prop)
    (preserved : ∀ action state next, permits action state → step action state = some next →
      invariant state → invariant next)
    {actions : List α} {state final : σ} (initially : invariant state)
    (ran : runWithin step permits actions state = some final) : invariant final := by
  induction actions generalizing state with
  | nil =>
      simp only [runWithin, Option.some.injEq] at ran
      exact ran ▸ initially
  | cons action rest ih =>
      obtain ⟨permitted, next, moved, remaining⟩ := runWithin_cons_eq_some_iff.mp ran
      exact ih (preserved action state next permitted moved initially) remaining

/-- An invariant that may speak of the actions so far. -/
theorem runWithin_history (invariant : List α → σ → Prop)
    (preserved : ∀ past action state next, permits action state → step action state = some next →
      invariant past state → invariant (past ++ [action]) next)
    {past actions : List α} {state final : σ} (initially : invariant past state)
    (ran : runWithin step permits actions state = some final) :
    invariant (past ++ actions) final := by
  induction actions generalizing past state with
  | nil =>
      simp only [runWithin, Option.some.injEq] at ran
      rwa [List.append_nil, ← ran]
  | cons action rest ih =>
      obtain ⟨permitted, next, moved, remaining⟩ := runWithin_cons_eq_some_iff.mp ran
      rw [List.append_cons]
      exact ih (preserved past action state next permitted moved initially) remaining

/-- A run meets every condition that follows from its own under an invariant. -/
theorem runWithin_of_invariant {other : α → σ → Bool} (invariant : σ → Prop)
    (implies : ∀ action state, invariant state → permits action state → other action state)
    (preserved : ∀ action state next, permits action state → step action state = some next →
      invariant state → invariant next)
    {actions : List α} {state final : σ} (held : invariant state)
    (ran : runWithin step permits actions state = some final) :
    runWithin step other actions state = some final := by
  induction actions generalizing state with
  | nil => exact ran
  | cons action rest ih =>
      obtain ⟨permitted, next, moved, remaining⟩ := runWithin_cons_eq_some_iff.mp ran
      exact runWithin_cons_eq_some_iff.mpr ⟨implies action state held permitted, next, moved,
        ih (preserved action state next permitted moved held) remaining⟩

/-- Weakening the condition keeps a run. -/
theorem runWithin_mono {other : α → σ → Bool}
    (implies : ∀ action state, permits action state → other action state)
    {actions : List α} {state final : σ}
    (ran : runWithin step permits actions state = some final) :
    runWithin step other actions state = some final :=
  runWithin_of_invariant (fun _ => True) (fun action state _ => implies action state)
    (fun _ _ _ _ _ _ => trivial) trivial ran

/-! ## Runs with notes -/

variable {ν : Type*}

/-- The system that also keeps notes: `note` says how one step is written
down.  Notes do not restrict the steps. -/
def noting (step : α → σ → Option σ) (note : α → σ → ν → ν) (action : α) (state : σ × ν) :
    Option (σ × ν) :=
  (step action state.1).map fun next => (next, note action state.1 state.2)

variable {note : α → σ → ν → ν}

theorem noting_eq_some_iff {action : α} {state next : σ × ν} :
    noting step note action state = some next ↔
      step action state.1 = some next.1 ∧ note action state.1 state.2 = next.2 := by
  rw [noting, Option.map_eq_some_iff]
  constructor
  · rintro ⟨after, moved, rfl⟩
    exact ⟨moved, rfl⟩
  · rintro ⟨moved, noted⟩
    exact ⟨next.1, moved, Prod.ext rfl noted⟩

/-- Every run can be written down. -/
theorem exists_noting_run (note : α → σ → ν → ν) {actions : List α} {state final : σ}
    (ran : runWithin step permits actions state = some final) (notes : ν) :
    ∃ noted, runWithin (noting step note) (fun action now => permits action now.1) actions
      (state, notes) = some (final, noted) := by
  induction actions generalizing state notes with
  | nil =>
      simp only [runWithin, Option.some.injEq] at ran
      exact ⟨notes, by rw [runWithin, ran]⟩
  | cons action rest ih =>
      obtain ⟨permitted, next, moved, remaining⟩ := runWithin_cons_eq_some_iff.mp ran
      obtain ⟨noted, further⟩ := ih remaining (note action state notes)
      refine ⟨noted, runWithin_cons_eq_some_iff.mpr ⟨permitted, _, ?_, further⟩⟩
      exact noting_eq_some_iff.mpr ⟨moved, rfl⟩

/-- Without its notes a run is a run of the system. -/
theorem run_of_noting {permits : α → σ × ν → Bool} {actions : List α} {first final : σ × ν}
    (ran : runWithin (noting step note) permits actions first = some final) :
    run step actions first.1 = some final.1 := by
  induction actions generalizing first with
  | nil =>
      simp only [runWithin, Option.some.injEq] at ran
      rw [ran]
      rfl
  | cons action rest ih =>
      obtain ⟨-, next, moved, remaining⟩ := runWithin_cons_eq_some_iff.mp ran
      exact runWithin_cons_eq_some_iff.mpr
        ⟨rfl, next.1, (noting_eq_some_iff.mp moved).1, ih remaining⟩

end ResearchTool.Process
