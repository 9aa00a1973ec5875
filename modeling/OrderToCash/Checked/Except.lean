import Mathlib.Data.List.Forall2
import Mathlib.Tactic.Common

/-!
# Inversion of fallible computations

A computation that may fail is read backwards: when a sequence of steps
succeeds, each of its steps did.  These are the rules the models of throwing
code are taken apart with.
-/

namespace OrderToCash.Checked

universe u v w

variable {ε : Type u} {ε' : Type v} {α β : Type w}

/-- A sequence succeeds exactly when its first step does and the rest succeeds
on its result. -/
theorem bind_eq_ok_iff {first : Except ε α} {rest : α → Except ε β}
    {result : β} :
    (first >>= rest) = .ok result ↔
      ∃ value, first = .ok value ∧ rest value = .ok result := by
  cases first with
  | error error => simp [bind, Except.bind]
  | ok value => simp [bind, Except.bind]

/-- A sequence fails exactly when its first step does or the rest fails on its
result. -/
theorem bind_eq_error_iff {first : Except ε α} {rest : α → Except ε β}
    {error : ε} :
    (first >>= rest) = .error error ↔
      first = .error error ∨
        ∃ value, first = .ok value ∧ rest value = .error error := by
  cases first with
  | error error => simp [bind, Except.bind]
  | ok value => simp [bind, Except.bind]

/-- Renaming errors does not change what succeeds. -/
theorem mapError_eq_ok_iff {computation : Except ε α} {rename : ε → ε'}
    {result : α} :
    computation.mapError rename = .ok result ↔ computation = .ok result := by
  cases computation with
  | error error => simp [Except.mapError]
  | ok value => simp [Except.mapError]

/-- A guarded failure in front of a computation: the computation succeeds
exactly when the guard is false and it succeeds on its own. -/
theorem ite_error_eq_ok_iff {condition : Prop} [Decidable condition] {error : ε}
    {computation : Except ε α} {result : α} :
    (if condition then .error error else computation) = .ok result ↔
      ¬ condition ∧ computation = .ok result := by
  by_cases holds : condition
  · simp [holds]
  · simp [holds]

/-- A sequence of computations that all succeed collects their results. -/
theorem mapM_eq_ok {γ : Type w} {compute : α → Except ε γ} {result : α → γ}
    {items : List α} (succeeds : ∀ item ∈ items, compute item = .ok (result item)) :
    items.mapM compute = .ok (items.map result) := by
  induction items with
  | nil => rfl
  | cons first rest inductionHypothesis =>
      rw [List.mapM_cons, succeeds first List.mem_cons_self,
        inductionHypothesis fun item itemMem =>
          succeeds item (List.mem_cons_of_mem first itemMem)]
      rfl

/-- Computations that all succeed, each with a result that is good for its item,
succeed as a sequence with results that are. -/
theorem exists_mapM_eq_ok {γ : Type w} {compute : α → Except ε γ}
    {good : α → γ → Prop} {items : List α}
    (succeeds : ∀ item ∈ items, ∃ result,
      compute item = .ok result ∧ good item result) :
    ∃ results, items.mapM compute = .ok results ∧
      List.Forall₂ good items results := by
  induction items with
  | nil => exact ⟨[], rfl, .nil⟩
  | cons first rest inductionHypothesis =>
      obtain ⟨result, computed, isGood⟩ := succeeds first List.mem_cons_self
      obtain ⟨results, collected, areGood⟩ := inductionHypothesis fun item itemMem =>
        succeeds item (List.mem_cons_of_mem first itemMem)
      refine ⟨result :: results, ?_, .cons isGood areGood⟩
      rw [List.mapM_cons, computed, collected]
      rfl

end OrderToCash.Checked
