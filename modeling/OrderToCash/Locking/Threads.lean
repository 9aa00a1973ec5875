import Mathlib.Data.Finset.Max
import Mathlib.Logic.Hydra
import OrderToCash.Locking.Program

/-!
# Transactions under locks

Any number of transactions are under way at once.  A lock is taken only where no
other transaction holds it, and all locks of a transaction are given back when
it publishes or is lost.  As long as a transaction changes nothing that it does
not hold, every other one has come as far as if it had read everything just now.
Where all transactions take their locks in ascending order, one of them can
always go on.
-/

namespace OrderToCash.Locking

universe u v w x y

variable {κ : Type u} {ν : κ → Type v} {σ : Type w} {α : Type x}

/-- A transaction under way: all of it, the locks it holds in the order it took
them, and what is left of it. -/
structure Thread (ν : κ → Type v) (σ : Type w) (α : Type x) where
  program : Program ν σ α
  held : List κ
  rest : Program ν σ α

/-- A transaction that has just been opened. -/
def Thread.opened (program : Program ν σ α) : Thread ν σ α := ⟨program, [], program⟩

/-- No other transaction holds the resource. -/
def Free (threads : List (Option (Thread ν σ α))) (index : Nat) (resource : κ) : Prop :=
  ∀ slot ∈ threads.eraseIdx index, ∀ thread ∈ slot, resource ∉ thread.held

instance [DecidableEq κ] (threads : List (Option (Thread ν σ α))) (index : Nat)
    (resource : κ) : Decidable (Free threads index resource) :=
  inferInstanceAs (Decidable (∀ slot ∈ threads.eraseIdx index, _))

theorem free_iff {threads : List (Option (Thread ν σ α))} {index : Nat} {resource : κ} :
    Free threads index resource ↔ ∀ other thread, other ≠ index →
      threads[other]? = some (some thread) → resource ∉ thread.held := by
  simp only [Free, List.mem_eraseIdx_iff_getElem?]
  constructor
  · intro free other thread differs found
    exact free (some thread) ⟨other, differs, found⟩ thread rfl
  · rintro free slot ⟨other, differs, found⟩ thread rfl
    exact free other thread differs found

variable (read : σ → (resource : κ) → ν resource)

/-- Take the next lock of a transaction, if no other one holds it. -/
def acquire [DecidableEq κ] (state : σ) (threads : List (Option (Thread ν σ α)))
    (index : Nat) : Option (List (Option (Thread ν σ α))) :=
  match threads[index]? with
  | some (some ⟨program, held, .lock resource next⟩) =>
      if Free threads index resource then
        some (threads.set index
          (some ⟨program, held ++ [resource], next (read state resource)⟩))
      else none
  | _ => none

/-- What a transaction publishes, once it has taken all its locks. -/
def effectOf (threads : List (Option (Thread ν σ α))) (index : Nat) :
    Option (σ → σ × α) :=
  match threads[index]? with
  | some (some ⟨_, _, .publish effect⟩) => some effect
  | _ => none

theorem effectOf_eq_some {threads : List (Option (Thread ν σ α))} {index : Nat}
    {effect : σ → σ × α} :
    effectOf threads index = some effect ↔ ∃ program held,
      threads[index]? = some (some ⟨program, held, .publish effect⟩) := by
  unfold effectOf
  split
  · rename_i program held other found
    rw [found]
    simp
  · rename_i notPublished
    constructor
    · intro absurdity
      cases absurdity
    · rintro ⟨program, held, found⟩
      exact absurd found (notPublished program held effect)

theorem acquire_eq_some [DecidableEq κ] {state : σ}
    {threads threads' : List (Option (Thread ν σ α))} {index : Nat} :
    acquire read state threads index = some threads' ↔
      ∃ program held resource next,
        threads[index]? = some (some ⟨program, held, .lock resource next⟩) ∧
          Free threads index resource ∧
            threads' = threads.set index
              (some ⟨program, held ++ [resource], next (read state resource)⟩) := by
  unfold acquire
  split
  · rename_i program held resource next found
    simp only [Option.ite_none_right_eq_some, Option.some.injEq, found]
    constructor
    · rintro ⟨free, rfl⟩
      exact ⟨program, held, resource, next, rfl, free, rfl⟩
    · rintro ⟨_, _, _, _, same, free, rfl⟩
      cases same
      exact ⟨free, rfl⟩
  · rename_i notWaiting
    constructor
    · intro absurdity
      cases absurdity
    · rintro ⟨program, held, resource, next, found, _⟩
      exact absurd found (notWaiting program held resource next)

/-! ## What locks keep -/

/-- Every transaction has come as far as if it had read all that it holds from
this state, and no two of them hold the same. -/
structure Locked (state : σ) (threads : List (Option (Thread ν σ α))) : Prop where
  follows : ∀ (index : Nat) thread, threads[index]? = some (some thread) →
    Follows read state thread.program thread.held thread.rest
  apart : ∀ (index : Nat) thread, threads[index]? = some (some thread) →
    ∀ resource ∈ thread.held, Free threads index resource

namespace Locked

variable {read} {state state' : σ} {threads threads' : List (Option (Thread ν σ α))}
  {index : Nat}

theorem nil : Locked read state ([] : List (Option (Thread ν σ α))) :=
  ⟨fun _ _ found => by simp at found, fun _ _ found => by simp at found⟩

/-- Where a slot holds a transaction or was changed to one that holds no more
than before or what was free, nothing else is disturbed. -/
theorem of_set {thread : Thread ν σ α} (locked : Locked read state threads)
    (follows : Follows read state thread.program thread.held thread.rest)
    (free : ∀ resource ∈ thread.held, Free threads index resource) :
    Locked read state (threads.set index (some thread)) := by
  constructor
  · intro other found isFound
    rw [List.getElem?_set] at isFound
    split at isFound
    · split at isFound
      · cases isFound
        exact follows
      · cases isFound
    · exact locked.follows other found isFound
  · intro other found isFound resource resourceMem
    apply free_iff.mpr
    intro third thirdThread differs isThird
    rw [List.getElem?_set] at isFound isThird
    split at isFound
    · rename_i same
      subst same
      rw [if_neg (Ne.symm differs)] at isThird
      split at isFound
      · cases isFound
        exact free_iff.mp (free resource resourceMem) third thirdThread differs isThird
      · cases isFound
    · rename_i otherDiffers
      split at isThird
      · split at isThird
        · cases isThird
          intro heldTwice
          exact free_iff.mp (free resource heldTwice) other found (Ne.symm otherDiffers)
            isFound resourceMem
        · cases isThird
      · exact free_iff.mp (locked.apart other found isFound resource resourceMem) third
          thirdThread differs isThird

theorem opened (locked : Locked read state threads) (program : Program ν σ α) :
    Locked read state (threads.set index (some (.opened program))) :=
  locked.of_set .start (List.forall_mem_nil _)

/-- A transaction that is rolled back gives back what it holds. -/
theorem rolledBack (locked : Locked read state threads) (index : Nat) :
    Locked read state (threads.set index none) := by
  have source : ∀ (other : Nat) thread,
      (threads.set index none)[other]? = some (some thread) →
        threads[other]? = some (some thread) := by
    intro other thread found
    rw [List.getElem?_set] at found
    split at found
    · split at found
      · cases found
      · cases found
    · exact found
  constructor
  · intro other thread found
    exact locked.follows other thread (source other thread found)
  · intro other thread found resource resourceMem
    apply free_iff.mpr
    intro third thirdThread differs isThird
    exact free_iff.mp (locked.apart other thread (source other thread found) resource
      resourceMem) third thirdThread differs (source third thirdThread isThird)

theorem acquired [DecidableEq κ] (locked : Locked read state threads)
    (taken : acquire read state threads index = some threads') :
    Locked read state threads' := by
  rcases (acquire_eq_some read).mp taken with
    ⟨program, held, resource, next, found, free, rfl⟩
  apply locked.of_set (locked.follows index _ found).locked
  intro other otherMem
  rcases List.mem_append.mp otherMem with before | isTaken
  · exact locked.apart index _ found other before
  · rw [List.mem_singleton.mp isTaken]
    exact free

/-- The transactions that stay, wherever they stood before. -/
theorem erased (locked : Locked read state threads) (index : Nat) :
    Locked read state (threads.eraseIdx index) := by
  have source : ∀ (other : Nat) thread,
      (threads.eraseIdx index)[other]? = some (some thread) →
        threads[if other < index then other else other + 1]? = some (some thread) := by
    intro other thread found
    rw [List.getElem?_eraseIdx] at found
    split at found
    · rw [if_pos (by assumption)]
      exact found
    · rw [if_neg (by assumption)]
      exact found
  constructor
  · intro other thread found
    exact locked.follows _ thread (source other thread found)
  · intro other thread found resource resourceMem
    apply free_iff.mpr
    intro third thirdThread differs isThird
    apply free_iff.mp (locked.apart _ thread (source other thread found) resource
      resourceMem) _ thirdThread _ (source third thirdThread isThird)
    split <;> split <;> omega

theorem appended (locked : Locked read state threads) (count : Nat) :
    Locked read state (threads ++ List.replicate count none) := by
  have source : ∀ (other : Nat) thread,
      (threads ++ List.replicate count none)[other]? = some (some thread) →
        threads[other]? = some (some thread) := by
    intro other thread found
    rcases Nat.lt_or_ge other threads.length with inside | outside
    · rwa [List.getElem?_append_left inside] at found
    · rw [List.getElem?_append_right outside, List.getElem?_replicate] at found
      split at found
      · cases found
      · cases found
  constructor
  · intro other thread found
    exact locked.follows other thread (source other thread found)
  · intro other thread found resource resourceMem
    apply free_iff.mpr
    intro third thirdThread differs isThird
    exact free_iff.mp (locked.apart other thread (source other thread found) resource
      resourceMem) third thirdThread differs (source third thirdThread isThird)

/-- A transaction that changes only what it holds leaves the others where they
are. -/
theorem published (locked : Locked read state threads) {thread : Thread ν σ α}
    (found : threads[index]? = some (some thread))
    (within : ∀ resource ∉ thread.held, read state' resource = read state resource) :
    Locked read state' (threads.eraseIdx index) := by
  have erased := locked.erased index
  constructor
  · intro other stays isFound
    apply (erased.follows other stays isFound).congr
    intro resource resourceMem
    apply within
    have memErased : some stays ∈ threads.eraseIdx index := List.mem_of_getElem? isFound
    intro heldTwice
    exact locked.apart index thread found resource heldTwice (some stays) memErased stays
      rfl resourceMem
  · exact erased.apart

end Locked

/-! ## One can always go on -/

section Progress

variable {ρ : Type y} [LinearOrder ρ] (rank : κ → ρ)

/-- Every transaction takes the locks that are left to it in ascending order. -/
def Ascending (threads : List (Option (Thread ν σ α))) : Prop :=
  ∀ slot ∈ threads, ∀ thread ∈ slot, thread.rest.Ascends rank thread.held

/-- The rank of the lock a transaction waits for. -/
def wanted (slot : Option (Thread ν σ α)) : WithBot ρ :=
  match slot with
  | some ⟨_, _, .lock resource _⟩ => rank resource
  | _ => ⊥

variable {rank} {read} {state : σ} {threads : List (Option (Thread ν σ α))}

/-- Transactions that lock in ascending order go on so, however far they are. -/
theorem Locked.ascending (locked : Locked read state threads)
    (ascends : ∀ slot ∈ threads, ∀ thread ∈ slot, thread.program.Ascends rank []) :
    Ascending rank threads := by
  intro slot slotMem thread isThread
  rcases List.mem_iff_getElem?.mp slotMem with ⟨index, found⟩
  cases isThread
  exact (locked.follows index thread found).ascends (ascends _ slotMem thread rfl)

/-- Among transactions that lock in ascending order there is no deadlock: while
one is under way, one takes its next lock or publishes. -/
theorem exists_advancing [DecidableEq κ] (ascending : Ascending rank threads)
    {thread : Thread ν σ α} (underWay : some thread ∈ threads) :
    ∃ index, (acquire read state threads index).isSome ∨
      (effectOf threads index).isSome := by
  rcases List.mem_iff_getElem?.mp underWay with ⟨place, isPlace⟩
  have inside : place < threads.length := (List.getElem?_eq_some_iff.mp isPlace).1
  -- The transaction that waits for the highest lock waits for no other one.
  rcases Finset.exists_max_image (Finset.range threads.length)
    (fun index => wanted rank (threads[index]?.getD none)) ⟨place, Finset.mem_range.mpr inside⟩
    with ⟨highest, _, isHighest⟩
  have noHigher : ∀ (other : Nat) slot, threads[other]? = some slot →
      wanted rank slot ≤ wanted rank (threads[highest]?.getD none) := by
    intro other slot found
    have within := (List.getElem?_eq_some_iff.mp found).1
    have notAbove := isHighest other (Finset.mem_range.mpr within)
    rwa [found] at notAbove
  have published : ∀ (other : Nat) thread, threads[other]? = some (some thread) →
      wanted rank (some thread) = ⊥ → (effectOf threads other).isSome := by
    rintro other ⟨program, held, rest⟩ found nothing
    cases rest with
    | publish effect => rw [effectOf_eq_some.mpr ⟨program, held, found⟩]; rfl
    | lock resource next => cases nothing
  cases waits : wanted rank (threads[highest]?.getD none) with
  | bot =>
      have nothing : wanted rank (some thread) ≤ ⊥ := waits ▸ noHigher place _ isPlace
      exact ⟨place, Or.inr (published place thread isPlace (le_bot_iff.mp nothing))⟩
  | coe top =>
      cases isThread : threads[highest]? with
      | none =>
          rw [isThread] at waits
          cases waits
      | some slot =>
          rw [isThread] at waits
          rcases slot with _ | ⟨program, held, rest⟩
          · cases waits
          cases rest with
          | publish effect => cases waits
          | lock resource next =>
              by_cases free : Free threads highest resource
              · refine ⟨highest, Or.inl ?_⟩
                rw [(acquire_eq_some read).mpr
                  ⟨program, held, resource, next, isThread, free, rfl⟩]
                rfl
              · simp only [free_iff, not_forall, not_not] at free
                rcases free with ⟨other, ⟨otherProgram, otherHeld, otherRest⟩, _, found,
                  holds⟩
                cases otherRest with
                | publish effect => exact ⟨other, Or.inr (published other _ found rfl)⟩
                | lock further later =>
                    have below := (ascending _ (List.mem_of_getElem? found) _ rfl).1
                      resource holds
                    have notAbove := noHigher other _ found
                    rw [isThread] at notAbove
                    exact absurd (WithBot.coe_le_coe.mp notAbove) (not_le.mpr below)

end Progress

/-! ## Nothing goes on forever -/

/-- Some transaction takes its next lock, or publishes and gives its locks back. -/
inductive Advance [DecidableEq κ] :
    σ × List (Option (Thread ν σ α)) → σ × List (Option (Thread ν σ α)) → Prop
  | acquired {state : σ} {threads threads' : List (Option (Thread ν σ α))} (index : Nat)
      (taken : acquire read state threads index = some threads') :
      Advance (state, threads) (state, threads')
  | published {state : σ} {threads : List (Option (Thread ν σ α))} (index : Nat)
      {effect : σ → σ × α} (found : effectOf threads index = some effect) :
      Advance (state, threads) ((effect state).1, threads.eraseIdx index)

/-- What is left of the transactions under way. -/
def remaining (threads : List (Option (Thread ν σ α))) : Multiset (Program ν σ α) :=
  threads.filterMap fun slot => slot.map Thread.rest

theorem remaining_eq_of_getElem? {threads : List (Option (Thread ν σ α))} {index : Nat}
    {thread : Thread ν σ α} (found : threads[index]? = some (some thread)) :
    remaining threads = remaining (threads.eraseIdx index) + {thread.rest} := by
  rcases List.getElem?_eq_some_iff.mp found with ⟨inside, isThread⟩
  have perm := (List.getElem_cons_eraseIdx_perm inside).filterMap
    fun slot : Option (Thread ν σ α) => slot.map Thread.rest
  rw [isThread] at perm
  have same := Multiset.coe_eq_coe.mpr perm
  rw [remaining, ← same, add_comm]
  rfl

section Ends

variable {read} [DecidableEq κ]

/-- With every advance less is left to do. -/
theorem Advance.remaining_decreases {before after : σ × List (Option (Thread ν σ α))}
    (advance : Advance read before after) :
    Relation.CutExpand Program.Continues (remaining after.2) (remaining before.2) := by
  cases advance with
  | acquired index taken =>
      rcases (acquire_eq_some read).mp taken with
        ⟨program, held, resource, next, found, _, rfl⟩
      have inside := (List.getElem?_eq_some_iff.mp found).1
      rw [remaining_eq_of_getElem? found,
        remaining_eq_of_getElem? (List.getElem?_set_self inside), List.eraseIdx_set_eq]
      exact Relation.cutExpand_add_single _ (.lock resource next _)
  | published index found =>
      rcases effectOf_eq_some.mp found with ⟨program, held, isThread⟩
      rw [remaining_eq_of_getElem? isThread]
      refine ⟨0, _, fun _ absurdity => ?_, (add_zero _).symm⟩
      exact absurd absurdity (Multiset.notMem_zero _)

/-- A system whose transactions are under locks comes to a state with none under
way, if one can go on wherever one is. -/
theorem exists_drained {S : Type y} {Moves : S → S → Prop} {Invariant : S → Prop}
    (project : S → σ × List (Option (Thread ν σ α)))
    (advances : ∀ source, Invariant source →
      (∃ thread, some thread ∈ (project source).2) →
        ∃ target, Moves source target ∧ Invariant target ∧
          Advance read (project source) (project target))
    {source : S} (holds : Invariant source) :
    ∃ target, Relation.ReflTransGen Moves source target ∧ Invariant target ∧
      ∀ slot ∈ (project target).2, slot = none := by
  have wellFounded := @Program.wellFounded_continues κ ν σ α
  generalize left : remaining (project source).2 = programs
  have accessible := (WellFounded.cutExpand wellFounded).apply programs
  induction accessible generalizing source with
  | intro programs _ inductionHypothesis =>
      by_cases underWay : ∃ thread, some thread ∈ (project source).2
      · rcases advances source holds underWay with ⟨middle, moves, kept, advance⟩
        rcases inductionHypothesis _ (left ▸ advance.remaining_decreases) kept rfl with
          ⟨target, path, atEnd⟩
        exact ⟨target, .head moves path, atEnd⟩
      · refine ⟨source, .refl, holds, fun slot slotMem => ?_⟩
        cases slot with
        | none => rfl
        | some thread => exact absurd ⟨thread, slotMem⟩ underWay

end Ends

end OrderToCash.Locking
