import OrderToCash.Transition.Run

/-!
# Forward simulation by a labelled relation

An abstract system is given by the moves it may make, each under a label that
says what happened.  A concrete execution is simulated when every step leaves
the abstract state it is represented by alone or makes one move of it, and the
action explains the label.  A condition on the actions then becomes one on the
labels, under which the invariants of the abstract system are proved.
-/

namespace OrderToCash.Transition

universe u v w x

variable {σ : Type u} {α : Type v} {τ : Type w} {ℓ : Type x}

/-- A state reached by moves whose labels are admitted where they are made. -/
inductive Reached (move : τ → ℓ → τ → Prop) (admits : τ → ℓ → Prop) (start : τ) :
    τ → Prop
  | refl : Reached move admits start start
  | tail {middle target : τ} {label : ℓ}
      (path : Reached move admits start middle) (admitted : admits middle label)
      (moved : move middle label target) : Reached move admits start target

namespace Reached

variable {move : τ → ℓ → τ → Prop} {admits : τ → ℓ → Prop} {start target : τ}

/-- What holds at the start and is kept by every admitted move holds of every
state reached. -/
theorem invariant {Invariant : τ → Prop} (initial : Invariant start)
    (preserved : ∀ state label state', Invariant state → admits state label →
      move state label state' → Invariant state')
    (path : Reached move admits start target) : Invariant target := by
  induction path with
  | refl => exact initial
  | tail _ admitted moved inductionHypothesis =>
      exact preserved _ _ _ inductionHypothesis admitted moved

theorem weaken {weaker : τ → ℓ → Prop}
    (implies : ∀ state label, admits state label → weaker state label)
    (path : Reached move admits start target) :
    Reached move weaker start target := by
  induction path with
  | refl => exact Reached.refl
  | tail _ admitted moved inductionHypothesis =>
      exact Reached.tail inductionHypothesis (implies _ _ admitted) moved

end Reached

/-- A step is matched by the abstract state it started from, or by one move of
it whose label the action explains. -/
def Matches (move : τ → ℓ → τ → Prop) (represents : σ → τ → Prop)
    (explains : σ → α → ℓ → Prop) (state : σ) (action : α) (state' : σ)
    (abstract : τ) : Prop :=
  represents state' abstract ∨
    ∃ label abstract', explains state action label ∧
      move abstract label abstract' ∧ represents state' abstract'

/-- An execution whose steps are all matched ends in a state that an abstract
run represents; its labels are admitted where the guard makes them so. -/
theorem exists_reached {next : Step σ α} {guard : Guard σ α}
    {move : τ → ℓ → τ → Prop} {admits : τ → ℓ → Prop}
    {represents : σ → τ → Prop} {explains : σ → α → ℓ → Prop}
    {source target : σ} {start : τ} (initial : represents source start)
    (simulates : ∀ state action state' abstract, represents state abstract →
      guard state action → next state action = some state' →
      Matches move represents explains state action state' abstract)
    (admitted : ∀ state action abstract label, represents state abstract →
      guard state action → explains state action label → admits abstract label)
    (path : Reachable next guard source target) :
    ∃ abstract, represents target abstract ∧
      Reached move admits start abstract := by
  induction path with
  | refl => exact ⟨start, initial, Reached.refl⟩
  | @tail middle target action path holds step inductionHypothesis =>
      rcases inductionHypothesis with ⟨abstract, represented, reached⟩
      rcases simulates _ _ _ _ represented holds step with
        same | ⟨label, abstract', explained, moved, represented'⟩
      · exact ⟨abstract, same, reached⟩
      · exact ⟨abstract', represented',
          reached.tail (admitted _ _ _ _ represented holds explained) moved⟩

end OrderToCash.Transition
