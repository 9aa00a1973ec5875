import Mathlib.Data.List.Basic
import Mathlib.Data.List.Nodup
import Mathlib.Data.List.Perm.Subperm

/-!
# Keyed tables and upserts

A table is a list of rows with a key.  An upsert is the database's
`INSERT … ON DUPLICATE KEY UPDATE`: a row whose key is present updates the
stored row, column by column, and any other row is appended.  The main rule
says what writing back a loaded, changed selection of a table does to it.
-/

namespace OrderToCash.Table

universe u v

variable {ρ : Type u} {κ : Type v} [DecidableEq κ]

/-- The columns `merge` updates are taken from `row` where the keys agree. -/
def updateRow (key : ρ → κ) (merge : ρ → ρ → ρ) (row existing : ρ) : ρ :=
  if key existing = key row then merge existing row else existing

/-- Insert one row, or update the row that has its key. -/
def upsert (key : ρ → κ) (merge : ρ → ρ → ρ) (table : List ρ) (row : ρ) :
    List ρ :=
  if key row ∈ table.map key then
    table.map (updateRow key merge row)
  else
    table ++ [row]

/-- Insert or update rows one after the other. -/
def upsertAll (key : ρ → κ) (merge : ρ → ρ → ρ) : List ρ → List ρ → List ρ
  | table, [] => table
  | table, row :: rest => upsertAll key merge (upsert key merge table row) rest

/-- What a sequence of updates does to one stored row. -/
def updateRows (key : ρ → κ) (merge : ρ → ρ → ρ) : List ρ → ρ → ρ
  | [], existing => existing
  | row :: rest, existing =>
      updateRows key merge rest (updateRow key merge row existing)

variable {key : ρ → κ} {merge : ρ → ρ → ρ}

/-- Updating a row keeps its key when merging does. -/
theorem key_updateRow (keyMerge : ∀ existing row, key existing = key row →
    key (merge existing row) = key existing) (row existing : ρ) :
    key (updateRow key merge row existing) = key existing := by
  unfold updateRow
  split
  · exact keyMerge existing row ‹_›
  · rfl

theorem map_key_map_updateRow (keyMerge : ∀ existing row,
    key existing = key row → key (merge existing row) = key existing) (row : ρ) (table : List ρ) :
    (table.map (updateRow key merge row)).map key = table.map key := by
  rw [List.map_map]
  exact List.map_congr_left fun existing _ =>
    key_updateRow keyMerge row existing

/-- Rows whose keys are all present are updates and nothing else. -/
theorem upsertAll_eq_map (keyMerge : ∀ existing row,
    key existing = key row → key (merge existing row) = key existing) {table rows : List ρ}
    (present : ∀ row ∈ rows, key row ∈ table.map key) :
    upsertAll key merge table rows = table.map (updateRows key merge rows) := by
  induction rows generalizing table with
  | nil => simp [upsertAll, updateRows]
  | cons row rest inductionHypothesis =>
      have rowPresent : key row ∈ table.map key := present row (by simp)
      have restPresent : ∀ later ∈ rest,
          key later ∈ (table.map (updateRow key merge row)).map key := by
        intro later laterMem
        rw [map_key_map_updateRow keyMerge]
        exact present later (List.mem_cons_of_mem row laterMem)
      simp only [upsertAll, upsert, if_pos rowPresent]
      rw [inductionHypothesis restPresent, List.map_map]
      rfl

/-- Rows whose keys are new, and pairwise different, are appended. -/
theorem upsertAll_eq_append {table rows : List ρ}
    (absent : ∀ row ∈ rows, key row ∉ table.map key)
    (distinct : (rows.map key).Nodup) :
    upsertAll key merge table rows = table ++ rows := by
  induction rows generalizing table with
  | nil => simp [upsertAll]
  | cons row rest inductionHypothesis =>
      have rowAbsent : key row ∉ table.map key := absent row (by simp)
      rw [List.map_cons, List.nodup_cons] at distinct
      have restAbsent : ∀ later ∈ rest, key later ∉ (table ++ [row]).map key := by
        intro later laterMem keyMem
        rw [List.map_append, List.mem_append] at keyMem
        rcases keyMem with inTable | isRow
        · exact absent later (List.mem_cons_of_mem row laterMem) inTable
        · rw [List.map_singleton, List.mem_singleton] at isRow
          exact distinct.1 (isRow ▸ List.mem_map_of_mem laterMem)
      simp only [upsertAll, upsert, if_neg rowAbsent]
      rw [inductionHypothesis restAbsent distinct.2, List.append_assoc]
      rfl

/-- Updates that name no row of this key leave it alone. -/
theorem updateRows_of_key_notMem {rows : List ρ} {existing : ρ}
    (absent : key existing ∉ rows.map key) :
    updateRows key merge rows existing = existing := by
  induction rows with
  | nil => rfl
  | cons row rest inductionHypothesis =>
      rw [List.map_cons, List.mem_cons, not_or] at absent
      simp only [updateRows, updateRow, if_neg absent.1]
      exact inductionHypothesis absent.2

/-- Among updates of different rows, the one naming a row decides it. -/
theorem updateRows_of_mem (keyMerge : ∀ existing row,
    key existing = key row → key (merge existing row) = key existing) {rows : List ρ}
    {row existing : ρ} (distinct : (rows.map key).Nodup) (rowMem : row ∈ rows)
    (sameKey : key existing = key row) :
    updateRows key merge rows existing = merge existing row := by
  induction rows with
  | nil => cases rowMem
  | cons first rest inductionHypothesis =>
      rw [List.map_cons, List.nodup_cons] at distinct
      rcases List.mem_cons.mp rowMem with rfl | inRest
      · simp only [updateRows, updateRow, if_pos sameKey]
        refine updateRows_of_key_notMem ?_
        rw [keyMerge existing row sameKey, sameKey]
        exact distinct.1
      · have firstOther : key existing ≠ key first := by
          intro same
          exact distinct.1 (same ▸ sameKey ▸ List.mem_map_of_mem inRest)
        simp only [updateRows, updateRow, if_neg firstOther]
        exact inductionHypothesis distinct.2 inRest

theorem upsertAll_append (table first second : List ρ) :
    upsertAll key merge table (first ++ second) =
      upsertAll key merge (upsertAll key merge table first) second := by
  induction first generalizing table with
  | nil => rfl
  | cons row rest inductionHypothesis =>
      simp only [List.cons_append, upsertAll]
      exact inductionHypothesis _

/-- Writing back the selected rows of a table, each changed without changing its
key and in any order, changes exactly the selected rows. -/
theorem upsertAll_eq_map_of_selection (keyMerge : ∀ existing row,
    key existing = key row → key (merge existing row) = key existing)
    {table rows : List ρ} (distinct : (table.map key).Nodup) (selected : ρ → Prop)
    [DecidablePred selected] (change : ρ → ρ)
    (keyChange : ∀ row, key (change row) = key row)
    (distinctRows : (rows.map key).Nodup)
    (loaded : ∀ row ∈ rows, ∃ before ∈ table, selected before ∧
      row = change before)
    (complete : ∀ row ∈ table, selected row → change row ∈ rows) :
    upsertAll key merge table rows =
      table.map fun row =>
        if selected row then merge row (change row) else row := by
  rw [upsertAll_eq_map keyMerge]
  · refine List.map_congr_left fun row rowMem => ?_
    by_cases isSelected : selected row
    · rw [if_pos isSelected]
      exact updateRows_of_mem keyMerge distinctRows
        (complete row rowMem isSelected) (keyChange row).symm
    · rw [if_neg isSelected]
      refine updateRows_of_key_notMem fun keyMem => ?_
      rcases List.mem_map.mp keyMem with ⟨written, writtenMem, sameKey⟩
      rcases loaded written writtenMem with
        ⟨before, beforeMem, beforeSelected, rfl⟩
      rw [keyChange] at sameKey
      have sameRow : before = row :=
        List.inj_on_of_nodup_map distinct beforeMem rowMem sameKey
      exact isSelected (sameRow ▸ beforeSelected)
  · intro row rowMem
    rcases loaded row rowMem with ⟨before, beforeMem, _, rfl⟩
    rw [keyChange]
    exact List.mem_map_of_mem beforeMem

/-- Loading the rows a predicate selects, changing them without changing their
keys, and writing them back changes exactly the selected rows. -/
theorem upsertAll_map_filter (keyMerge : ∀ existing row,
    key existing = key row → key (merge existing row) = key existing)
    {table : List ρ} (distinct : (table.map key).Nodup) (selected : ρ → Prop)
    [DecidablePred selected] (change : ρ → ρ)
    (keyChange : ∀ row, key (change row) = key row) :
    upsertAll key merge table ((table.filter selected).map change) =
      table.map fun row =>
        if selected row then merge row (change row) else row := by
  refine upsertAll_eq_map_of_selection keyMerge distinct selected change
    keyChange ?_ ?_ ?_
  · have keys : ((table.filter selected).map change).map key =
        (table.filter selected).map key := by
      rw [List.map_map]
      exact List.map_congr_left fun row _ => keyChange row
    rw [keys]
    exact (List.filter_sublist.map key).nodup distinct
  · intro row rowMem
    rcases List.mem_map.mp rowMem with ⟨before, beforeMem, rfl⟩
    rw [List.mem_filter, decide_eq_true_eq] at beforeMem
    exact ⟨before, beforeMem.1, beforeMem.2, rfl⟩
  · intro row rowMem isSelected
    refine List.mem_map_of_mem (List.mem_filter.mpr ⟨rowMem, ?_⟩)
    exact decide_eq_true isSelected

/-- Writing a table back unchanged leaves it as it is. -/
theorem upsertAll_self (keyMerge : ∀ existing row,
    key existing = key row → key (merge existing row) = key existing)
    (mergeSelf : ∀ row, merge row row = row) {table : List ρ}
    (distinct : (table.map key).Nodup) :
    upsertAll key merge table table = table := by
  have written := upsertAll_eq_map_of_selection keyMerge distinct
    (fun _ => True) id (fun _ => rfl) distinct
    (fun row rowMem => ⟨row, rowMem, trivial, rfl⟩) (fun row rowMem _ => rowMem)
  simpa [mergeSelf] using written

/-! ## A table read key by key -/

/-- Reading the rows of different keys one key after the other reads exactly the
rows of those keys. -/
theorem flatMap_filter_perm (column : ρ → κ) (table : List ρ) {keys : List κ}
    (distinct : keys.Nodup) :
    (keys.flatMap fun key => table.filter (column · = key)).Perm
      (table.filter (column · ∈ keys)) := by
  induction keys with
  | nil => simp
  | cons first rest inductionHypothesis =>
      rw [List.nodup_cons] at distinct
      have ofFirst : (table.filter (column · ∈ first :: rest)).filter
          (column · = first) = table.filter (column · = first) := by
        rw [List.filter_filter]
        refine List.filter_congr fun row _ => ?_
        by_cases here : column row = first
        · simp [here]
        · simp [here]
      have ofRest : (table.filter (column · ∈ first :: rest)).filter
          (fun row => !decide (column row = first)) =
            table.filter (column · ∈ rest) := by
        rw [List.filter_filter]
        refine List.filter_congr fun row _ => ?_
        by_cases here : column row = first
        · simp [here, distinct.1]
        · simp [here]
      have split := List.filter_append_perm (column · = first)
        (table.filter (column · ∈ first :: rest))
      rw [ofFirst, ofRest] at split
      rw [List.flatMap_cons]
      exact ((inductionHypothesis distinct.2).append_left _).trans split

/-- A unique key selects one row. -/
theorem filter_key_eq_singleton (column : ρ → κ) {table : List ρ}
    (unique : (table.map column).Nodup) {row : ρ} (stored : row ∈ table) :
    table.filter (fun other => column other = column row) = [row] := by
  induction table with
  | nil => cases stored
  | cons first rest inductionHypothesis =>
      obtain ⟨notInRest, restUnique⟩ := List.nodup_cons.mp unique
      rcases List.mem_cons.mp stored with rfl | inRest
      · have noOther : rest.filter (fun other => column other = column row) = [] := by
          rw [List.filter_eq_nil_iff]
          intro other otherMem same
          exact notInRest
            (List.mem_map.mpr ⟨other, otherMem, of_decide_eq_true same⟩)
        rw [List.filter_cons_of_pos (by simp), noOther]
      · have differs : column first ≠ column row := fun same =>
          notInRest (List.mem_map.mpr ⟨row, inRest, same.symm⟩)
        rw [List.filter_cons_of_neg (by simpa using differs)]
        exact inductionHypothesis restUnique inRest

/-- Collecting rows into a keyed map keeps all of them exactly when their keys
differ; then the map lists them as they came. -/
theorem upsertAll_nil_of_nodup {rows : List ρ} (distinct : (rows.map key).Nodup) :
    upsertAll key merge [] rows = rows := by
  rw [upsertAll_eq_append (by simp) distinct, List.nil_append]

theorem mem_map_key_upsert (keyMerge : ∀ existing row,
    key existing = key row → key (merge existing row) = key existing)
    (table : List ρ) (row : ρ) (wanted : κ) :
    wanted ∈ (upsert key merge table row).map key ↔
      wanted ∈ table.map key ∨ wanted = key row := by
  unfold upsert
  split
  · rename_i present
    rw [map_key_map_updateRow keyMerge]
    constructor
    · exact Or.inl
    · rintro (before | rfl)
      · exact before
      · exact present
  · rw [List.map_append, List.mem_append]
    simp

theorem nodup_map_key_upsert (keyMerge : ∀ existing row,
    key existing = key row → key (merge existing row) = key existing)
    {table : List ρ} (distinct : (table.map key).Nodup) (row : ρ) :
    ((upsert key merge table row).map key).Nodup := by
  unfold upsert
  split
  · rw [map_key_map_updateRow keyMerge]
    exact distinct
  · rename_i absent
    rw [List.map_append, List.map_singleton]
    exact List.nodup_append.mpr ⟨distinct, List.nodup_singleton _, by
      intro existing existingMem other otherMem same
      rw [List.mem_singleton] at otherMem
      exact absent (otherMem ▸ same ▸ existingMem)⟩

/-- The keys of a collected map are the keys of its rows, each once. -/
theorem upsertAll_keys (keyMerge : ∀ existing row,
    key existing = key row → key (merge existing row) = key existing)
    {table rows : List ρ} (distinct : (table.map key).Nodup) :
    ((upsertAll key merge table rows).map key).Nodup ∧
      ∀ wanted, wanted ∈ (upsertAll key merge table rows).map key ↔
        wanted ∈ table.map key ∨ wanted ∈ rows.map key := by
  induction rows generalizing table with
  | nil => exact ⟨distinct, by simp [upsertAll]⟩
  | cons row rest inductionHypothesis =>
      obtain ⟨nodup, members⟩ :=
        inductionHypothesis (nodup_map_key_upsert keyMerge distinct row)
      refine ⟨nodup, fun wanted => ?_⟩
      rw [upsertAll, members, mem_map_key_upsert keyMerge]
      simp [or_assoc]

/-- A collected map as long as its rows lost none of them. -/
theorem nodup_of_length_upsertAll_nil (keyMerge : ∀ existing row,
    key existing = key row → key (merge existing row) = key existing)
    {rows : List ρ}
    (complete : rows.length ≤ (upsertAll key merge [] rows).length) :
    (rows.map key).Nodup := by
  have noKeys : (([] : List ρ).map key).Nodup := List.nodup_nil
  obtain ⟨nodup, members⟩ := @upsertAll_keys _ _ _ key merge keyMerge [] rows noKeys
  have subset : (upsertAll key merge [] rows).map key ⊆ rows.map key := by
    intro wanted wantedMem
    simpa using (members wanted).mp wantedMem
  have sublist : ((upsertAll key merge [] rows).map key).Subperm (rows.map key) :=
    List.subperm_of_subset nodup subset
  have perm : ((upsertAll key merge [] rows).map key).Perm (rows.map key) :=
    sublist.perm_of_length_le (by simpa using complete)
  exact perm.nodup_iff.mp nodup

end OrderToCash.Table
