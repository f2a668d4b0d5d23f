import Mathlib.Data.List.Forall2
import ResearchTool.Process.Run

/-!
# Runs seen by an observer

An observer sees some of the actions of a run, each under a label.  Some states
look alike to it, and so do some labels.  If the actions it does not see leave
the state as it was for the observer, and actions with similar labels take
states that look alike to such states again, then runs that look alike end in
states that look alike, whatever else happened in them.
-/

namespace ResearchTool.Process

universe u v w

variable {σ : Type u} {α : Type v} {ℓ : Type w}

/-- The labels of a run, for an observer that sees an action as `label` says. -/
def seen (step : α → σ → Option σ) (label : α → σ → Option ℓ) : List α → σ → List ℓ
  | [], _ => []
  | action :: rest, state =>
      (label action state).toList ++
        match step action state with
        | some next => seen step label rest next
        | none => []

variable {step : α → σ → Option σ} {label : α → σ → Option ℓ}

theorem seen_cons {action : α} {rest : List α} {state next : σ}
    (moved : step action state = some next) :
    seen step label (action :: rest) state =
      (label action state).toList ++ seen step label rest next := by
  rw [seen, moved]

/-- What an observer sees determines what the states look like. -/
structure Unwinding (step : α → σ → Option σ) (label : α → σ → Option ℓ) (invariant : σ → Prop)
    (similar : ℓ → ℓ → Prop) (alike : σ → σ → Prop) : Prop where
  preserved : ∀ {action state next}, invariant state → step action state = some next →
    invariant next
  /-- what is not seen changes nothing -/
  unseen_left : ∀ {action state next other}, invariant state → step action state = some next →
    label action state = none → alike state other → alike next other
  unseen_right : ∀ {action state next other}, invariant state → step action state = some next →
    label action state = none → alike other state → alike other next
  /-- what looks alike does the same -/
  consistent : ∀ {action other : α} {first second first' second' : σ} {as bs : ℓ},
    invariant first → invariant second → alike first second →
    label action first = some as → label other second = some bs → similar as bs →
    step action first = some first' → step other second = some second' → alike first' second'

namespace Unwinding

variable {invariant : σ → Prop} {similar : ℓ → ℓ → Prop} {alike : σ → σ → Prop}

/-- Whatever looked like the first state looks like the second. -/
def Passes (alike : σ → σ → Prop) (state next : σ) : Prop :=
  ∀ other, (alike state other → alike next other) ∧ (alike other state → alike other next)

theorem passes_of_unseen (unwinding : Unwinding step label invariant similar alike) {action : α}
    {state next : σ} (kept : invariant state) (moved : step action state = some next)
    (unseen : label action state = none) : Passes alike state next :=
  fun _ => ⟨unwinding.unseen_left kept moved unseen, unwinding.unseen_right kept moved unseen⟩

theorem Passes.trans {first second third : σ} (before : Passes alike first second)
    (after : Passes alike second third) : Passes alike first third :=
  fun other => ⟨(after other).1 ∘ (before other).1, (after other).2 ∘ (before other).2⟩

/-- A run that shows nothing changes nothing. -/
theorem silent (unwinding : Unwinding step label invariant similar alike) {actions : List α}
    {state final : σ} (kept : invariant state) (ran : run step actions state = some final)
    (nothing : seen step label actions state = []) : Passes alike state final := by
  induction actions generalizing state with
  | nil =>
      simp only [run, runWithin, Option.some.injEq] at ran
      exact ran ▸ fun _ => ⟨id, id⟩
  | cons action rest ih =>
      obtain ⟨-, next, moved, remaining⟩ := runWithin_cons_eq_some_iff.mp ran
      rw [seen_cons moved, List.append_eq_nil_iff, Option.toList_eq_nil_iff] at nothing
      exact (unwinding.passes_of_unseen kept moved nothing.1).trans
        (ih (unwinding.preserved kept moved) remaining nothing.2)

/-- A run up to the first action that is seen, that action, and the rest. -/
theorem first_seen (unwinding : Unwinding step label invariant similar alike) {actions : List α}
    {state final : σ} {as : ℓ} {later : List ℓ} (kept : invariant state)
    (ran : run step actions state = some final)
    (sees : seen step label actions state = as :: later) :
    ∃ action rest before next, Passes alike state before ∧ invariant before ∧
      label action before = some as ∧ step action before = some next ∧
      run step rest next = some final ∧ seen step label rest next = later := by
  induction actions generalizing state with
  | nil => cases sees
  | cons action rest ih =>
      obtain ⟨-, next, moved, remaining⟩ := runWithin_cons_eq_some_iff.mp ran
      rw [seen_cons moved] at sees
      cases labelled : label action state with
      | none =>
          rw [labelled] at sees
          obtain ⟨first, rest, before, after, passes, held, found⟩ :=
            ih (unwinding.preserved kept moved) remaining sees
          exact ⟨first, rest, before, after,
            (unwinding.passes_of_unseen kept moved labelled).trans passes, held, found⟩
      | some shown =>
          rw [labelled] at sees
          obtain ⟨rfl, rfl⟩ := List.cons.inj sees
          exact ⟨action, rest, state, next, fun _ => ⟨id, id⟩, kept, labelled, moved,
            remaining, rfl⟩

/-- Runs that look alike end in states that look alike. -/
theorem runs_alike (unwinding : Unwinding step label invariant similar alike)
    {actions others : List α} {first second final other : σ} (kept : invariant first)
    (held : invariant second) (same : alike first second)
    (ran : run step actions first = some final) (went : run step others second = some other)
    (seenAlike : List.Forall₂ similar (seen step label actions first)
      (seen step label others second)) : alike final other := by
  generalize showing : seen step label actions first = labels at seenAlike
  generalize shown : seen step label others second = names at seenAlike
  induction seenAlike generalizing actions others first second with
  | nil =>
      have here := unwinding.silent kept ran showing
      have there := unwinding.silent held went shown
      exact (there final).2 ((here second).1 same)
  | cons similarly _ ih =>
      obtain ⟨action, rest, before, next, here, keptBefore, labelled, moved, remaining, sees⟩ :=
        unwinding.first_seen kept ran showing
      obtain ⟨action', rest', before', next', there, heldBefore, labelled', moved', remaining',
          sees'⟩ :=
        unwinding.first_seen held went shown
      have met : alike before before' := (there before).2 ((here second).1 same)
      have after : alike next next' := unwinding.consistent keptBefore heldBefore met labelled
        labelled' similarly moved moved'
      exact ih (unwinding.preserved keptBefore moved) (unwinding.preserved heldBefore moved') after
        remaining remaining' sees sees'

/-- Runs that look alike up to other labels. -/
theorem runs_relabelled {relabel : ℓ → ℓ}
    (unwinding : Unwinding step label invariant (fun as bs => relabel as = bs) alike)
    {actions others : List α} {first second final other : σ} (kept : invariant first)
    (held : invariant second) (same : alike first second)
    (ran : run step actions first = some final) (went : run step others second = some other)
    (seenAlike : (seen step label actions first).map relabel = seen step label others second) :
    alike final other := by
  apply unwinding.runs_alike kept held same ran went
  rw [← seenAlike]
  exact List.forall₂_map_right_iff.mpr (List.forall₂_same.mpr fun _ _ => rfl)

end Unwinding

end ResearchTool.Process
