import Mathlib.Data.List.Forall2
import Mathlib.Tactic.Common

/-!
# Journals

A table is kept beside a log that announces it: some entries of the log tell of
a row, and the entries that do match the rows one for one and in order.  Such a
log is a journal of the table.  A journal is kept by writes that append rows
together with the entries telling of them.
-/

namespace OrderToCash.Log

universe u v w x

variable {ε : Type u} {κ : Type v} {ρ : Type w}

/-- The entries of the log that can be read tell of the rows, one entry of each
row and in the order of the rows. -/
def Journal (read : ε → Option κ) (tells : κ → ρ → Prop) (log : List ε)
    (rows : List ρ) : Prop :=
  List.Forall₂ tells (log.filterMap read) rows

namespace Journal

variable {read : ε → Option κ} {tells : κ → ρ → Prop} {log entries : List ε}
  {rows rows' : List ρ}

theorem empty : Journal read tells [] ([] : List ρ) :=
  List.Forall₂.nil

/-- Rows are appended with the entries that tell of them. -/
theorem append (journal : Journal read tells log rows)
    (appended : List.Forall₂ tells (entries.filterMap read) rows') :
    Journal read tells (log ++ entries) (rows ++ rows') := by
  rw [Journal, List.filterMap_append]
  exact List.rel_append journal appended

/-- Entries that tell of no row may be appended alone. -/
theorem silent (journal : Journal read tells log rows)
    (unread : entries.filterMap read = []) :
    Journal read tells (log ++ entries) rows := by
  rw [Journal, List.filterMap_append, unread, List.append_nil]
  exact journal

/-- What is told of the rows may be told of the rows they become. -/
theorem change {ρ' : Type x} {tells' : κ → ρ' → Prop} {become : ρ → ρ'}
    (journal : Journal read tells log rows)
    (kept : ∀ told, ∀ row ∈ rows, tells told row → tells' told (become row)) :
    Journal read tells' log (rows.map become) := by
  unfold Journal at journal ⊢
  generalize log.filterMap read = read at journal
  induction journal with
  | nil => exact .nil
  | cons here _ inductionHypothesis =>
      apply List.Forall₂.cons
      · exact kept _ _ List.mem_cons_self here
      · exact inductionHypothesis fun told row rowMem =>
          kept told row (List.mem_cons_of_mem _ rowMem)

theorem imp {tells' : κ → ρ → Prop} (journal : Journal read tells log rows)
    (kept : ∀ told, ∀ row ∈ rows, tells told row → tells' told row) :
    Journal read tells' log rows := by
  have changed : Journal read tells' log (rows.map id) := journal.change kept
  rwa [List.map_id] at changed

theorem length_eq (journal : Journal read tells log rows) :
    (log.filterMap read).length = rows.length :=
  List.Forall₂.length_eq journal

/-- Whatever the log tells of is a row. -/
theorem exists_row (journal : Journal read tells log rows) {entry : ε} {told : κ}
    (logged : entry ∈ log) (reads : read entry = some told) :
    ∃ row ∈ rows, tells told row := by
  have toldMem : told ∈ log.filterMap read := List.mem_filterMap.mpr ⟨entry, logged, reads⟩
  unfold Journal at journal
  generalize log.filterMap read = read at journal toldMem
  induction journal with
  | nil => cases toldMem
  | cons here _ inductionHypothesis =>
      rcases List.mem_cons.mp toldMem with rfl | later
      · exact ⟨_, List.mem_cons_self, here⟩
      · rcases inductionHypothesis later with ⟨row, rowMem, tellsRow⟩
        exact ⟨row, List.mem_cons_of_mem _ rowMem, tellsRow⟩

/-- Every row is told of. -/
theorem exists_entry (journal : Journal read tells log rows) {row : ρ}
    (rowMem : row ∈ rows) :
    ∃ entry ∈ log, ∃ told, read entry = some told ∧ tells told row := by
  suffices toldOf : ∃ told ∈ log.filterMap read, tells told row by
    rcases toldOf with ⟨told, toldMem, tellsRow⟩
    rcases List.mem_filterMap.mp toldMem with ⟨entry, logged, reads⟩
    exact ⟨entry, logged, told, reads, tellsRow⟩
  unfold Journal at journal
  generalize log.filterMap read = read at journal
  induction journal with
  | nil => cases rowMem
  | cons here _ inductionHypothesis =>
      rcases List.mem_cons.mp rowMem with rfl | later
      · exact ⟨_, List.mem_cons_self, here⟩
      · rcases inductionHypothesis later with ⟨told, toldMem, tellsRow⟩
        exact ⟨told, List.mem_cons_of_mem _ toldMem, tellsRow⟩

end Journal

end OrderToCash.Log
