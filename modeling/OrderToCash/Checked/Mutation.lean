import Mathlib.Tactic.Common

/-!
# Operations that write and may throw

An action reads and writes a state and may throw on its way; what it wrote
before it threw stays written.  These are the rules by which a throwing action
is seen to leave the state it started from: what comes before the first write
may throw, and what comes after it may not.
-/

namespace OrderToCash.Checked

variable {ε σ α β : Type}

/-- Whenever the action throws from the state, it leaves the state. -/
def KeptAt (action : EStateM ε σ α) (state : σ) : Prop :=
  ∀ error left, action.run state = .error error left → left = state

/-- The action writes nothing, whether it throws or not. -/
structure ReadsOnly (action : EStateM ε σ α) : Prop where
  ofOk : ∀ {state value left}, action.run state = .ok value left → left = state
  ofError : ∀ {state error left},
    action.run state = .error error left → left = state

/-- A computation that only throws leaves every state. -/
theorem run_ofExcept (computation : Except ε α) (state : σ) :
    (ofExcept computation : EStateM ε σ α).run state =
      match computation with
      | .ok value => .ok value state
      | .error error => .error error state := by
  cases computation <;> rfl

/-- What is caught is handled from the state the throw left. -/
theorem run_tryCatch (action : EStateM ε σ α) (handler : ε → EStateM ε σ α)
    (state : σ) :
    (tryCatch action handler).run state =
      match action.run state with
      | .ok value left => .ok value left
      | .error error left => (handler error).run left := by
  change (EStateM.tryCatch action handler) state = _
  unfold EStateM.tryCatch EStateM.run
  cases action state <;> rfl

/-! ## Sequences -/

/-- A sequence that reads first is as good as what follows from the state it
read. -/
theorem KeptAt.bind {first : EStateM ε σ α} {rest : α → EStateM ε σ β}
    {state : σ} (reads : ReadsOnly first)
    (follows : ∀ value, first.run state = .ok value state →
      KeptAt (rest value) state) : KeptAt (first >>= rest) state := by
  intro error left threw
  rw [EStateM.run_bind] at threw
  cases ran : first.run state with
  | ok value middle =>
      rw [ran] at threw
      cases reads.ofOk ran
      exact follows value ran error left threw
  | error other middle =>
      rw [ran] at threw
      cases threw
      exact reads.ofError ran

/-! ## Single actions -/

theorem ReadsOnly.keptAt {action : EStateM ε σ α} (reads : ReadsOnly action)
    (state : σ) : KeptAt action state :=
  fun _ _ threw => reads.ofError threw

theorem readsOnly_get : ReadsOnly (get : EStateM ε σ σ) := by
  constructor
  · intro state value left succeeded
    cases succeeded
    rfl
  · intro state error left threw
    cases threw

theorem readsOnly_ofExcept (computation : Except ε α) :
    ReadsOnly (ofExcept computation : EStateM ε σ α) := by
  cases computation with
  | ok value =>
      constructor
      · intro state result left succeeded
        cases succeeded
        rfl
      · intro state error left threw
        cases threw
  | error error =>
      constructor
      · intro state result left succeeded
        cases succeeded
      · intro state other left threw
        cases threw
        rfl

theorem readsOnly_throw (error : ε) : ReadsOnly (throw error : EStateM ε σ α) :=
  readsOnly_ofExcept (.error error)

theorem keptAt_modify (change : σ → σ) (state : σ) :
    KeptAt (modify change : EStateM ε σ PUnit) state := by
  intro error left threw
  cases threw

end OrderToCash.Checked
