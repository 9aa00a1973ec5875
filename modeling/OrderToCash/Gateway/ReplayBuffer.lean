import Mathlib.Data.List.Nodup

/-!
# The bounded replay buffer and its cursors

A fixed-capacity history of what was pushed last, oldest first, keyed by the
cursor each value was pushed under.  The buffer is a suffix of everything ever
pushed, so a cursor it still holds is followed by all that came after it.
-/

namespace OrderToCash.Gateway

universe u

/-! ## Cursors -/

/-- The `id:` of a frame: the epoch milliseconds it was minted at, and the
place of the minting in its process. -/
def renderCursor (now : Int) (sequence : Nat) : String :=
  toString now ++ "-" ++ toString sequence

theorem dash_notMem_toDigits (number : Nat) : '-' ∉ Nat.toDigits 10 number := by
  intro member
  have digit := Nat.isDigit_of_mem_toDigits (by decide) (by decide) member
  revert digit
  decide

theorem toDigits_injective {first second : Nat}
    (same : Nat.toDigits 10 first = Nat.toDigits 10 second) :
    first = second := by
  have numbers := congrArg (fun digits => Nat.ofDigitChars 10 digits 0) same
  simpa only [Nat.ofDigitChars_ten_toDigits] using numbers

/-- What follows the last separator of two equal texts is equal. -/
theorem eq_of_append_separator {α : Type u} {separator : α}
    {first second digits others : List α} (notMem : separator ∉ digits)
    (notMemOthers : separator ∉ others)
    (same : first ++ separator :: digits = second ++ separator :: others) :
    digits = others := by
  rcases List.append_eq_append_iff.mp same with
    ⟨middle, _, remaining⟩ | ⟨middle, _, remaining⟩
  · cases middle with
    | nil => exact (List.cons.inj remaining).2
    | cons head tail =>
        rcases List.cons.inj remaining with ⟨_, inDigits⟩
        exact absurd (by rw [inDigits]; simp) notMem
  · cases middle with
    | nil => exact (List.cons.inj remaining).2.symm
    | cons head tail =>
        rcases List.cons.inj remaining with ⟨_, inOthers⟩
        exact absurd (by rw [inOthers]; simp) notMemOthers

/-- Cursors of different mintings differ, whatever the clock read. -/
theorem sequence_eq_of_renderCursor {now later : Int} {sequence other : Nat}
    (same : renderCursor now sequence = renderCursor later other) :
    sequence = other := by
  have characters := congrArg String.toList same
  simp only [renderCursor, String.toList_append, Nat.toString_eq_repr,
    Nat.toList_repr, List.append_assoc] at characters
  apply toDigits_injective
  exact eq_of_append_separator (dash_notMem_toDigits sequence)
    (dash_notMem_toDigits other) characters

/-! ## The buffer -/

/-- A buffer with its capacity; construction refuses a capacity below 1. -/
structure ReplayBuffer (α : Type u) where
  capacity : Nat
  positive : 1 ≤ capacity
  entries : List (String × α)

/-- What a reconnection is answered. -/
structure ReplayResult (α : Type u) where
  resumed : Bool
  missed : List α

/-- Drop the oldest entries while there are more than the capacity. -/
def shiftOverflow {α : Type u} (capacity : Nat) : List α → List α
  | [] => []
  | oldest :: rest =>
      if capacity < (oldest :: rest).length then
        shiftOverflow capacity rest
      else
        oldest :: rest

theorem shiftOverflow_suffix {α : Type u} (capacity : Nat) (entries : List α) :
    shiftOverflow capacity entries <:+ entries := by
  induction entries with
  | nil => exact List.suffix_rfl
  | cons oldest rest inductionHypothesis =>
      unfold shiftOverflow
      split
      · exact inductionHypothesis.trans (List.suffix_cons oldest rest)
      · exact List.suffix_rfl

namespace ReplayBuffer

variable {α : Type u}

def create (capacity : Nat) (positive : 1 ≤ capacity) : ReplayBuffer α where
  capacity := capacity
  positive := positive
  entries := []

def push (buffer : ReplayBuffer α) (cursor : String) (value : α) :
    ReplayBuffer α :=
  { buffer with
    entries := shiftOverflow buffer.capacity
      (buffer.entries ++ [(cursor, value)]) }

/-- No cursor is a fresh connection; a cursor that is not stored cannot be
resumed from, whether it was evicted or never stored. -/
def replayAfter (buffer : ReplayBuffer α) : Option String → ReplayResult α
  | none => ⟨false, []⟩
  | some cursor =>
      match buffer.entries.findIdx? fun entry => entry.1 = cursor with
      | none => ⟨false, []⟩
      | some index =>
          ⟨true, (buffer.entries.drop (index + 1)).map Prod.snd⟩

/-- The buffer holds the newest of the values pushed, each under its cursor. -/
def Holds (buffer : ReplayBuffer α) (history : List (String × α)) : Prop :=
  buffer.entries <:+ history

theorem Holds.push {buffer : ReplayBuffer α} {history : List (String × α)}
    (holds : buffer.Holds history) (cursor : String) (value : α) :
    (buffer.push cursor value).Holds (history ++ [(cursor, value)]) := by
  rcases holds with ⟨evicted, rfl⟩
  apply (shiftOverflow_suffix _ _).trans
  rw [List.append_assoc]
  exact List.suffix_append evicted _

/-- What follows an entry of a suffix is what follows it in the whole. -/
theorem findIdx?_eq_some_of_suffix {entries : List (String × α)}
    {cursor : String} {index : Nat}
    (found : entries.findIdx? (fun entry => entry.1 = cursor) = some index) :
    ∃ value, entries =
      entries.take index ++ (cursor, value) :: entries.drop (index + 1) := by
  rcases List.findIdx?_eq_some_iff_getElem.mp found with ⟨bound, selected, _⟩
  have sameCursor : entries[index].1 = cursor := of_decide_eq_true selected
  have whole := List.take_append_drop index entries
  rw [List.drop_eq_getElem_cons bound] at whole
  rw [← sameCursor]
  exact ⟨entries[index].2, whole.symm⟩

/-- A resumption replays exactly what was pushed after the cursor. -/
theorem replayAfter_resumed {buffer : ReplayBuffer α}
    {history : List (String × α)} (holds : buffer.Holds history) {cursor : String}
    (resumed : (buffer.replayAfter (some cursor)).resumed = true) :
    ∃ earlier value rest, history = earlier ++ (cursor, value) :: rest ∧
      (buffer.replayAfter (some cursor)).missed = rest.map Prod.snd ∧
      ∀ entry ∈ rest, entry ∈ buffer.entries := by
  rcases holds with ⟨evicted, rfl⟩
  simp only [replayAfter] at resumed ⊢
  cases found : buffer.entries.findIdx? fun entry => entry.1 = cursor with
  | none =>
      rw [found] at resumed
      cases resumed
  | some index =>
      rcases findIdx?_eq_some_of_suffix found with ⟨value, split⟩
      refine ⟨evicted ++ buffer.entries.take index, value,
        buffer.entries.drop (index + 1), ?_, rfl, ?_⟩
      · rw [List.append_assoc, ← split]
      · intro entry member
        exact List.mem_of_mem_drop member

end ReplayBuffer

end OrderToCash.Gateway
