import Mathlib.Data.List.Basic

/-!
# Logs that respect an order

A log is only ever appended to, and may repeat what it has.  It respects an
order of its entries when each entry is first logged after the ones that
precede it.  Appending keeps that as long as whatever precedes an appended entry
is in the log already, or before it in what is appended.
-/

namespace OrderToCash.Log

universe u

variable {α : Type u} [DecidableEq α]

/-- Every logged entry comes after the first occurrence of those that precede
it. -/
def InOrder (precedes : α → α → Prop) (log : List α) : Prop :=
  ∀ first second, precedes first second → second ∈ log →
    log.idxOf first < log.idxOf second

/-- What precedes an entry of the batch is in the log or earlier in the batch. -/
def Preceded (precedes : α → α → Prop) (log batch : List α) : Prop :=
  ∀ before second after, batch = before ++ second :: after →
    ∀ first, precedes first second → first ∈ log ∨ first ∈ before

variable {precedes : α → α → Prop} {log batch : List α}

theorem InOrder.nil : InOrder precedes ([] : List α) := by
  intro first second _ secondMem
  cases secondMem

/-- In a log that respects the order nothing is logged without what precedes
it. -/
theorem InOrder.mem (inOrder : InOrder precedes log) {first second : α}
    (firstPrecedes : precedes first second) (secondMem : second ∈ log) :
    first ∈ log := by
  apply List.idxOf_lt_length_iff.mp
  exact Nat.lt_trans (inOrder first second firstPrecedes secondMem)
    (List.idxOf_lt_length_iff.mpr secondMem)

theorem InOrder.append (inOrder : InOrder precedes log)
    (preceded : Preceded precedes log batch) : InOrder precedes (log ++ batch) := by
  intro first second firstPrecedes secondMem
  by_cases logged : second ∈ log
  · rw [List.idxOf_append_of_mem logged,
      List.idxOf_append_of_mem (inOrder.mem firstPrecedes logged)]
    exact inOrder first second firstPrecedes logged
  · have appended : second ∈ batch :=
      (List.mem_append.mp secondMem).resolve_left logged
    rcases List.eq_append_cons_of_mem appended with ⟨before, after, split, notBefore⟩
    have place : (log ++ batch).idxOf second = log.length + before.length := by
      rw [List.idxOf_append_of_notMem logged, split,
        List.idxOf_append_of_notMem notBefore, List.idxOf_cons_self, Nat.add_zero]
    rw [place]
    by_cases firstLogged : first ∈ log
    · rw [List.idxOf_append_of_mem firstLogged]
      exact Nat.lt_of_lt_of_le (List.idxOf_lt_length_iff.mpr firstLogged)
        (Nat.le_add_right _ _)
    · have firstBefore :=
        (preceded before second after split first firstPrecedes).resolve_left firstLogged
      rw [List.idxOf_append_of_notMem firstLogged, split,
        List.idxOf_append_of_mem firstBefore]
      exact Nat.add_lt_add_left (List.idxOf_lt_length_iff.mpr firstBefore) _

/-- An order that says less of the logged entries is respected as well. -/
theorem InOrder.mono {weaker : α → α → Prop} (inOrder : InOrder precedes log)
    (implied : ∀ first second, second ∈ log → weaker first second →
      precedes first second) : InOrder weaker log := by
  intro first second firstPrecedes secondMem
  exact inOrder first second (implied first second secondMem firstPrecedes) secondMem

omit [DecidableEq α] in
theorem Preceded.mono {weaker : α → α → Prop} {longer : List α}
    (preceded : Preceded precedes log batch)
    (implied : ∀ first second, second ∈ batch → weaker first second →
      precedes first second)
    (kept : ∀ entry ∈ log, entry ∈ longer) : Preceded weaker longer batch := by
  intro before second after split first firstPrecedes
  have secondMem : second ∈ batch := by
    rw [split]
    exact List.mem_append_right _ List.mem_cons_self
  rcases preceded before second after split first
    (implied first second secondMem firstPrecedes) with logged | isBefore
  · exact Or.inl (kept first logged)
  · exact Or.inr isBefore

omit [DecidableEq α] in
/-- In a list that is sorted by a strict order, what is smaller than an entry is
before it. -/
theorem mem_before_of_sorted {lt : α → α → Prop} (asymmetric : ∀ a b, lt a b → ¬ lt b a)
    {before after : List α} {entry smaller : α}
    (sorted : (before ++ entry :: after).Pairwise lt)
    (smallerMem : smaller ∈ before ++ entry :: after) (isSmaller : lt smaller entry) :
    smaller ∈ before := by
  rcases List.mem_append.mp smallerMem with isBefore | fromEntry
  · exact isBefore
  · rcases List.mem_cons.mp fromEntry with rfl | isAfter
    · exact absurd isSmaller (asymmetric _ _ isSmaller)
    · have larger := List.rel_of_pairwise_cons (List.pairwise_append.mp sorted).2.1
        isAfter
      exact absurd isSmaller (asymmetric _ _ larger)

end OrderToCash.Log
