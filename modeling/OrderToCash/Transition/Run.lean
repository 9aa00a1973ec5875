import Mathlib.Data.List.Basic
import Mathlib.Logic.Relation

/-!
# Guarded executions of labelled transition systems

A system is given by an executable labelled step.  An execution is a schedule
of actions, each enabled in the state the earlier ones lead to.  Many results
hold only of the executions whose every action is taken under a condition on
the state before it; such a condition is a guard, and reachability carries the
guard as a parameter.
-/

namespace OrderToCash.Transition

universe u v

/-- One action of a labelled system; `none` where the action is not enabled. -/
abbrev Step (σ : Type u) (α : Type v) := σ → α → Option σ

/-- A condition under which an action is taken in a state. -/
abbrev Guard (σ : Type u) (α : Type v) := σ → α → Prop

/-- The guard that admits every action. -/
def unguarded {σ : Type u} {α : Type v} : Guard σ α := fun _ _ => True

instance {σ : Type u} {α : Type v} (state : σ) (action : α) :
    Decidable (unguarded state action) :=
  inferInstanceAs (Decidable True)

variable {σ : Type u} {α : Type v}

/-- `target` is reached from `source` by enabled actions, each taken where the
guard holds. -/
inductive Reachable (next : Step σ α) (guard : Guard σ α) (source : σ) :
    σ → Prop
  | refl : Reachable next guard source source
  | tail {middle target : σ} {action : α}
      (path : Reachable next guard source middle)
      (admitted : guard middle action)
      (step : next middle action = some target) :
      Reachable next guard source target

namespace Reachable

variable {next : Step σ α} {guard : Guard σ α} {source middle target : σ}

theorem single {action : α} (admitted : guard source action)
    (step : next source action = some target) :
    Reachable next guard source target :=
  Reachable.tail Reachable.refl admitted step

theorem trans (first : Reachable next guard source middle)
    (second : Reachable next guard middle target) :
    Reachable next guard source target := by
  induction second with
  | refl => exact first
  | tail _ admitted step inductionHypothesis =>
      exact Reachable.tail inductionHypothesis admitted step

/-- An execution under a guard is one under every weaker guard. -/
theorem weaken {weaker : Guard σ α}
    (implies : ∀ state action, guard state action → weaker state action)
    (path : Reachable next guard source target) :
    Reachable next weaker source target := by
  induction path with
  | refl => exact Reachable.refl
  | tail _ admitted step inductionHypothesis =>
      exact Reachable.tail inductionHypothesis (implies _ _ admitted) step

/-- What holds initially and is kept by every admitted action holds of every
state reached. -/
theorem invariant {Invariant : σ → Prop} (initial : Invariant source)
    (preserved : ∀ state action state', Invariant state → guard state action →
      next state action = some state' → Invariant state')
    (path : Reachable next guard source target) : Invariant target := by
  induction path with
  | refl => exact initial
  | tail _ admitted step inductionHypothesis =>
      exact preserved _ _ _ inductionHypothesis admitted step

/-- Moves that are each an admitted step lead where an execution leads. -/
theorem of_moves (moves : Relation.ReflTransGen
    (fun before after => ∃ action, guard before action ∧ next before action = some after)
    source target) : Reachable next guard source target := by
  induction moves with
  | refl => exact Reachable.refl
  | tail _ move inductionHypothesis =>
      rcases move with ⟨action, admitted, step⟩
      exact Reachable.tail inductionHypothesis admitted step

end Reachable

/-- Execute a schedule of actions, checking the guard before each of them. -/
def execute (next : Step σ α) (guard : σ → α → Bool) : σ → List α → Option σ
  | state, [] => some state
  | state, action :: rest =>
      if guard state action then
        (next state action).bind fun state' => execute next guard state' rest
      else
        none

theorem execute_cons_eq_some {next : Step σ α} {guard : σ → α → Bool}
    {state target : σ} {action : α} {rest : List α} :
    execute next guard state (action :: rest) = some target ↔
      guard state action = true ∧
        ∃ state', next state action = some state' ∧
          execute next guard state' rest = some target := by
  simp only [execute]
  cases guard state action with
  | false => simp
  | true => simp [Option.bind_eq_some_iff]

/-- A schedule that executes is an execution under its guard. -/
theorem reachable_of_execute {next : Step σ α} {guard : Guard σ α}
    [decidable : ∀ state action, Decidable (guard state action)]
    {source target : σ} {schedule : List α}
    (executed : execute next (fun state action => decide (guard state action))
      source schedule = some target) :
    Reachable next guard source target := by
  induction schedule generalizing source with
  | nil =>
      simp only [execute, Option.some.injEq] at executed
      subst executed
      exact Reachable.refl
  | cons action rest inductionHypothesis =>
      rcases execute_cons_eq_some.mp executed with
        ⟨admitted, state', step, remaining⟩
      exact Reachable.trans
        (Reachable.single (of_decide_eq_true admitted) step)
        (inductionHypothesis remaining)

/-- The steps of a system under choices that look at the state. -/
def choosing (next : Step σ α) : Step σ (σ → α) := fun state choose =>
  next state (choose state)

/-- What is reached by choices is reached by the actions they choose. -/
theorem Reachable.of_choosing {next : Step σ α} {guard : Guard σ α}
    {source target : σ}
    (path : Reachable (choosing next) (fun state choose => guard state (choose state))
      source target) :
    Reachable next guard source target := by
  induction path with
  | refl => exact Reachable.refl
  | tail _ admitted step inductionHypothesis =>
      exact Reachable.tail inductionHypothesis admitted step

/-- A schedule of choices that executes is an execution under its guard. -/
theorem reachable_of_choices {next : Step σ α} {guard : Guard σ α}
    [decidable : ∀ state action, Decidable (guard state action)]
    {source target : σ} {choices : List (σ → α)}
    (executed : execute (choosing next)
      (fun state choose => decide (guard state (choose state))) source choices =
        some target) :
    Reachable next guard source target := by
  apply Reachable.of_choosing
  exact reachable_of_execute executed

/-- Every action of the schedule is enabled where it is taken, and the property
holds of each step (the state before it, the action, the state after it). -/
def EveryStep (next : Step σ α) (property : σ → α → σ → Prop) :
    σ → List α → Prop
  | _, [] => True
  | state, action :: rest =>
      ∃ state', next state action = some state' ∧
        property state action state' ∧ EveryStep next property state' rest

/-- A schedule is checked by running it. -/
instance EveryStep.decidable (next : Step σ α) (property : σ → α → σ → Prop)
    [∀ state action state', Decidable (property state action state')] :
    ∀ (source : σ) (schedule : List α),
      Decidable (EveryStep next property source schedule)
  | _, [] => isTrue trivial
  | state, action :: rest =>
      match step : next state action with
      | none => isFalse fun ⟨_, enabled, _⟩ => by simp [step] at enabled
      | some state' =>
          let _remaining : Decidable (EveryStep next property state' rest) :=
            EveryStep.decidable next property state' rest
          decidable_of_iff
            (property state action state' ∧ EveryStep next property state' rest)
            ⟨fun holds => ⟨state', step, holds⟩, fun ⟨other, enabled, holds⟩ => by
              rw [step, Option.some.injEq] at enabled
              exact enabled ▸ holds⟩

/-- Two step properties that agree wherever an invariant holds, which steps
with the first property keep, hold of the same schedules. -/
theorem everyStep_congr {next : Step σ α} (Invariant : σ → Prop)
    {first second : σ → α → σ → Prop}
    (agree : ∀ state action state', Invariant state →
      next state action = some state' →
      (first state action state' ↔ second state action state'))
    (preserved : ∀ state action state', Invariant state →
      next state action = some state' → first state action state' →
      Invariant state')
    {source : σ} {schedule : List α} (initial : Invariant source) :
    EveryStep next first source schedule ↔
      EveryStep next second source schedule := by
  induction schedule generalizing source with
  | nil => exact Iff.rfl
  | cons action rest inductionHypothesis =>
      constructor
      · rintro ⟨state', step, holds, remaining⟩
        have kept := preserved _ _ _ initial step holds
        exact ⟨state', step, (agree _ _ _ initial step).mp holds,
          (inductionHypothesis kept).mp remaining⟩
      · rintro ⟨state', step, holds, remaining⟩
        have holdsFirst := (agree _ _ _ initial step).mpr holds
        have kept := preserved _ _ _ initial step holdsFirst
        exact ⟨state', step, holdsFirst,
          (inductionHypothesis kept).mpr remaining⟩

end OrderToCash.Transition
