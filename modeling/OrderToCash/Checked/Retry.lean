import OrderToCash.Checked.Mutation

/-!
# Work that is attempted again

An attempt that throws an error worth retrying is followed by another, up to a
bound.  Its transaction is undone by whoever ran it, but what it wrote to the
variables around it stays written: the next attempt starts from there.
-/

namespace OrderToCash.Checked

variable {ε σ α : Type}

/-- Run the attempts from a number on, with so many retries left; the last one
allowed throws whatever it throws. -/
def retry (again : ε → Bool) (work : Nat → EStateM ε σ α) :
    Nat → Nat → EStateM ε σ α
  | 0, attempt => work attempt
  | retries + 1, attempt =>
      tryCatch (work attempt) fun error =>
        if again error then retry again work retries (attempt + 1) else throw error

/-- From every state the attempt throws an error worth retrying, and leaves what
`leave` makes of the state. -/
def Aborts (again : ε → Bool) (attempt : EStateM ε σ α) (leave : σ → σ) : Prop :=
  ∀ state, ∃ error, attempt.run state = .error error (leave state) ∧
    again error = true

/-- The attempt does not throw an error worth retrying. -/
def EndsAt (again : ε → Bool) (attempt : EStateM ε σ α) (state : σ) : Prop :=
  ∀ error left, attempt.run state = .error error left → again error = false

/-- What the first attempts leave of a state. -/
def leftBehind (leave : Nat → σ → σ) : Nat → σ → σ
  | 0, state => state
  | attempts + 1, state => leave attempts (leftBehind leave attempts state)

theorem run_retry_succ (again : ε → Bool) (work : Nat → EStateM ε σ α)
    (retries attempt : Nat) (state : σ) :
    (retry again work (retries + 1) attempt).run state =
      match (work attempt).run state with
      | .ok value left => .ok value left
      | .error error left =>
          if again error then (retry again work retries (attempt + 1)).run left
          else .error error left := by
  rw [retry, run_tryCatch]
  cases (work attempt).run state with
  | ok value left => rfl
  | error error left =>
      by_cases worth : again error = true
      · simp only [worth, if_true]
      · simp only [worth]
        rfl

/-- Attempts that abort are followed by the next, from what they left. -/
theorem run_retry_of_aborted {again : ε → Bool} {work : Nat → EStateM ε σ α}
    {leave : Nat → σ → σ} {first : Nat}
    (aborted : ∀ attempt < first, Aborts again (work attempt) (leave attempt))
    (retries : Nat) (state : σ) :
    (retry again work (first + retries) 0).run state =
      (retry again work retries first).run (leftBehind leave first state) := by
  induction first generalizing retries with
  | zero => rw [Nat.zero_add, leftBehind]
  | succ first inductionHypothesis =>
      have earlier := inductionHypothesis
        (fun attempt before => aborted attempt (Nat.lt_succ_of_lt before)) (retries + 1)
      obtain ⟨error, threw, worth⟩ := aborted first (Nat.lt_succ_self first)
        (leftBehind leave first state)
      rw [Nat.add_right_comm, Nat.add_assoc, earlier, run_retry_succ, threw]
      simp only [worth, if_true]
      rfl

/-- An attempt that throws nothing worth retrying is the last. -/
theorem run_retry_of_endsAt {again : ε → Bool} {work : Nat → EStateM ε σ α}
    {attempt : Nat} {state : σ} (ends : EndsAt again (work attempt) state)
    (retries : Nat) :
    (retry again work retries attempt).run state = (work attempt).run state := by
  cases retries with
  | zero => rfl
  | succ retries =>
      rw [run_retry_succ]
      cases ran : (work attempt).run state with
      | ok value left => rfl
      | error error left =>
          have last := ends error left ran
          simp only [last, Bool.false_eq_true, if_false]

end OrderToCash.Checked
