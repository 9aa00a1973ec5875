import Mathlib.Data.List.Basic
import Mathlib.Order.WellFounded

/-!
# Transactions that lock what they read

A transaction locks resources one after the other.  It reads a resource when it
locks it, may decide by what it has read which resource to lock next, and in
the end publishes an effect on the whole state at once.  Run on its own, it
reads everything from one state; step by step, each resource is read from the
state at that moment.
-/

namespace OrderToCash.Locking

universe u v w x y

variable {κ : Type u} {ν : κ → Type v} {σ : Type w} {α : Type x}

/-- The locks a transaction takes, each with what it goes on to do with the
value it reads, and the effect it publishes with its answer. -/
inductive Program (ν : κ → Type v) (σ : Type w) (α : Type x)
  | lock (resource : κ) (next : ν resource → Program ν σ α)
  | publish (effect : σ → σ × α)

variable (read : σ → (resource : κ) → ν resource)

/-- The effect and the answer of a transaction that runs on its own. -/
def Program.run : Program ν σ α → σ → σ × α
  | .lock resource next, state => (next (read state resource)).run state
  | .publish effect, state => effect state

/-- With the locks that are held, in the order they were taken, the transaction
has come this far, had it read all of them from this one state. -/
inductive Follows (state : σ) (program : Program ν σ α) : List κ → Program ν σ α → Prop
  | start : Follows state program [] program
  | locked {held : List κ} {resource : κ} {next : ν resource → Program ν σ α}
      (before : Follows state program held (.lock resource next)) :
      Follows state program (held ++ [resource]) (next (read state resource))

variable {read} {state state' : σ} {program rest : Program ν σ α} {held : List κ}

/-- What is left of a transaction does what all of it does. -/
theorem Follows.run_eq (follows : Follows read state program held rest) :
    program.run read state = rest.run read state := by
  induction follows with
  | start => rfl
  | locked _ inductionHypothesis => exact inductionHypothesis

/-- A transaction has come as far in every state that agrees on what it holds. -/
theorem Follows.congr (follows : Follows read state program held rest)
    (agree : ∀ resource ∈ held, read state' resource = read state resource) :
    Follows read state' program held rest := by
  induction follows with
  | start => exact .start
  | @locked held resource next _ inductionHypothesis =>
      have before := inductionHypothesis fun other otherMem =>
        agree other (List.mem_append_left _ otherMem)
      rw [← agree resource (List.mem_append_right _ (List.mem_singleton_self resource))]
      exact .locked before

/-- A transaction that starts with a lock has not taken it yet, or goes on with
what it has read. -/
theorem follows_lock_iff {resource : κ} {next : ν resource → Program ν σ α} :
    Follows read state (.lock resource next) held rest ↔
      held = [] ∧ rest = .lock resource next ∨
        ∃ later, held = resource :: later ∧
          Follows read state (next (read state resource)) later rest := by
  constructor
  · intro follows
    induction follows with
    | start => exact Or.inl ⟨rfl, rfl⟩
    | locked before inductionHypothesis =>
        right
        rcases inductionHypothesis with ⟨rfl, isFirst⟩ | ⟨later, rfl, goesOn⟩
        · cases isFirst
          exact ⟨[], rfl, .start⟩
        · exact ⟨_, rfl, .locked goesOn⟩
  · rintro (⟨rfl, rfl⟩ | ⟨later, rfl, goesOn⟩)
    · exact .start
    · induction goesOn with
      | start => exact .locked .start
      | locked _ inductionHypothesis => exact .locked inductionHypothesis

/-! ## Statements that lock several resources -/

variable {ι : Type y} {β : Type y}

/-- Lock a resource for each item, one after the other, and go on with all that
was collected. -/
def Program.lockAll (resource : ι → κ)
    (collect : (item : ι) → ν (resource item) → List β) :
    List ι → (List β → Program ν σ α) → Program ν σ α
  | [], next => next []
  | item :: items, next =>
      .lock (resource item) fun value =>
        lockAll resource collect items fun collected =>
          next (collect item value ++ collected)

/-- What the statement collects in one state. -/
def collected (read : σ → (resource : κ) → ν resource) (state : σ) (resource : ι → κ)
    (collect : (item : ι) → ν (resource item) → List β) (items : List ι) : List β :=
  items.flatMap fun item => collect item (read state (resource item))

variable {resource : ι → κ} {collect : (item : ι) → ν (resource item) → List β}
  {items : List ι} {next : List β → Program ν σ α}

theorem Program.run_lockAll (state : σ) :
    (Program.lockAll resource collect items next).run read state =
      (next (collected read state resource collect items)).run read state := by
  induction items generalizing next with
  | nil => rfl
  | cons item rest inductionHypothesis =>
      simp only [lockAll, run, inductionHypothesis, collected, List.flatMap_cons]

/-- A transaction that has published has passed all of a statement. -/
theorem follows_lockAll_publish {effect : σ → σ × α}
    (follows : Follows read state (Program.lockAll resource collect items next) held
      (.publish effect)) :
    ∃ later, held = items.map resource ++ later ∧
      Follows read state (next (collected read state resource collect items)) later
        (.publish effect) := by
  induction items generalizing next held with
  | nil => exact ⟨held, rfl, follows⟩
  | cons item rest inductionHypothesis =>
      rcases follows_lock_iff.mp follows with ⟨_, impossible⟩ | ⟨later, rfl, goesOn⟩
      · cases impossible
      · rcases inductionHypothesis goesOn with ⟨last, rfl, ended⟩
        refine ⟨last, rfl, ?_⟩
        simpa only [collected, List.flatMap_cons] using ended

/-! ## Locks in ascending order -/

variable {ρ : Type y} [LT ρ]

/-- Every lock that is still to be taken ranks above those that are held. -/
def Program.Ascends (rank : κ → ρ) : List κ → Program ν σ α → Prop
  | held, .lock resource next =>
      (∀ other ∈ held, rank other < rank resource) ∧
        ∀ value, Ascends rank (held ++ [resource]) (next value)
  | _, .publish _ => True

theorem Program.ascends_lockAll {rank : κ → ρ}
    (above : ∀ item ∈ items, ∀ other ∈ held, rank other < rank (resource item))
    (sorted : items.Pairwise fun first second =>
      rank (resource first) < rank (resource second))
    (goesOn : ∀ values, (next values).Ascends rank (held ++ items.map resource)) :
    (Program.lockAll resource collect items next).Ascends rank held := by
  induction items generalizing next held with
  | nil => simpa [lockAll] using goesOn []
  | cons item rest inductionHypothesis =>
      rw [List.pairwise_cons] at sorted
      refine ⟨above item List.mem_cons_self, fun value => ?_⟩
      apply inductionHypothesis
      · intro later laterMem other otherMem
        rcases List.mem_append.mp otherMem with before | isItem
        · exact above later (List.mem_cons_of_mem item laterMem) other before
        · rw [List.mem_singleton.mp isItem]
          exact sorted.1 later laterMem
      · exact sorted.2
      · intro values
        simpa using goesOn (collect item value ++ values)

/-- What is left of a transaction that locks in ascending order locks in ascending
order. -/
theorem Follows.ascends {rank : κ → ρ} (ascends : program.Ascends rank [])
    (follows : Follows read state program held rest) : rest.Ascends rank held := by
  induction follows with
  | start => exact ascends
  | locked _ inductionHypothesis => exact inductionHypothesis.2 _

/-! ## Transactions end -/

/-- What a transaction goes on with after its first lock. -/
inductive Program.Continues : Program ν σ α → Program ν σ α → Prop
  | lock (resource : κ) (next : ν resource → Program ν σ α) (value : ν resource) :
      Continues (next value) (.lock resource next)

/-- No transaction takes locks forever. -/
theorem Program.wellFounded_continues :
    WellFounded (@Program.Continues κ ν σ α) := by
  constructor
  intro program
  induction program with
  | lock resource next inductionHypothesis =>
      constructor
      rintro other ⟨value⟩
      exact inductionHypothesis _
  | publish effect =>
      constructor
      intro other absurdity
      cases absurdity

end OrderToCash.Locking
