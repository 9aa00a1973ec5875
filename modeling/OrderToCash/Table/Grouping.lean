import Mathlib.Algebra.BigOperators.Group.List.Basic
import Mathlib.Algebra.Order.Field.Rat
import Mathlib.Data.List.Dedup
import Mathlib.Data.List.Nodup
import Mathlib.Data.List.Perm.Subperm
import Mathlib.Tactic.Common
import OrderToCash.Table.Upsert

/-!
# Grouped queries

`GROUP BY` gives one group for each key that occurs, with the rows of that key.
A fold over the groups sees every key once, so what it adds up does not depend
on the keys it runs over beyond those that count for something.
-/

namespace OrderToCash.Table

universe u v

variable {κ : Type u} {ρ : Type v}

/-- Each item is kept once. -/
theorem nodup_eraseDups [BEq κ] [LawfulBEq κ] (items : List κ) :
    items.eraseDups.Nodup := by
  cases items with
  | nil => exact List.nodup_nil
  | cons first rest =>
      rw [List.eraseDups_cons, List.nodup_cons]
      constructor
      · intro listed
        have differs := (List.mem_filter.mp (List.mem_eraseDups.mp listed)).2
        simp at differs
      · exact nodup_eraseDups (rest.filter fun other => !other == first)
termination_by items.length
decreasing_by exact Nat.lt_succ_of_le (List.length_filter_le _ rest)

variable [DecidableEq κ]

/-- The groups of a table by a key, in the order the keys first appear in. -/
def groupRows (key : ρ → κ) (table : List ρ) : List (κ × List ρ) :=
  (table.map key).eraseDups.map fun value =>
    (value, table.filter (key · = value))

/-- The items of a duplicate-free list that equal one value. -/
theorem filter_eq_of_nodup {items : List κ} (distinct : items.Nodup) (value : κ) :
    items.filter (· = value) = if value ∈ items then [value] else [] := by
  induction items with
  | nil => rfl
  | cons first rest inductionHypothesis =>
      rw [List.nodup_cons] at distinct
      by_cases here : first = value
      · subst here
        simp [inductionHypothesis distinct.2, distinct.1]
      · have elsewhere : value ≠ first := fun same => here same.symm
        simp [inductionHypothesis distinct.2, here, elsewhere]

/-- A key has one group where it occurs, and none elsewhere. -/
theorem filter_groupRows (key : ρ → κ) (table : List ρ) (value : κ) :
    (groupRows key table).filter (·.1 = value) =
      if value ∈ table.map key then [(value, table.filter (key · = value))]
      else [] := by
  have ofKeys : (groupRows key table).filter (·.1 = value) =
      ((table.map key).eraseDups.filter (· = value)).map fun value =>
        (value, table.filter (key · = value)) := by
    rw [groupRows, List.filter_map]
    rfl
  rw [ofKeys, filter_eq_of_nodup (nodup_eraseDups _)]
  simp only [List.mem_eraseDups]
  split <;> rfl

/-- A sum over the keys that occur is the sum over any list of them that leaves
out none that counts. -/
theorem sum_eraseDups_map {occurring keys : List κ} {amount : κ → Int}
    (distinct : keys.Nodup) (listed : ∀ key ∈ occurring, key ∈ keys)
    (nothing : ∀ key ∉ occurring, amount key = 0) :
    (occurring.eraseDups.map amount).sum = (keys.map amount).sum := by
  have perm : occurring.eraseDups.Perm (keys.filter (· ∈ occurring)) := by
    rw [List.perm_ext_iff_of_nodup (nodup_eraseDups _) (distinct.filter _)]
    intro key
    rw [List.mem_eraseDups, List.mem_filter, decide_eq_true_iff]
    exact ⟨fun occurs => ⟨listed key occurs, occurs⟩, fun both => both.2⟩
  rw [(perm.map amount).sum_eq]
  clear perm listed distinct
  induction keys with
  | nil => rfl
  | cons first rest inductionHypothesis =>
      by_cases occurs : first ∈ occurring
      · rw [List.filter_cons_of_pos (by simpa using occurs), List.map_cons,
          List.sum_cons, inductionHypothesis, List.map_cons, List.sum_cons]
      · rw [List.filter_cons_of_neg (by simpa using occurs), inductionHypothesis,
          List.map_cons, List.sum_cons, nothing first occurs, Int.zero_add]

/-- A sum over a table is the sum over its keys of what the rows of each add up
to. -/
theorem sum_map_by_key (column : ρ → κ) (amount : ρ → Int) {table : List ρ}
    {keys : List κ} (distinct : keys.Nodup)
    (listed : ∀ row ∈ table, column row ∈ keys) :
    (table.map amount).sum =
      (keys.map fun key =>
        ((table.filter (column · = key)).map amount).sum).sum := by
  have all : table.filter (column · ∈ keys) = table :=
    List.filter_eq_self.mpr fun row rowMem => decide_eq_true (listed row rowMem)
  have perm := flatMap_filter_perm column table distinct
  rw [all] at perm
  rw [← (perm.map amount).sum_eq]
  clear perm all listed distinct
  induction keys with
  | nil => rfl
  | cons first rest inductionHypothesis =>
      rw [List.flatMap_cons, List.map_append, List.sum_append, inductionHypothesis,
        List.map_cons, List.sum_cons]

omit [DecidableEq κ] in
/-- A sum over what is picked for some keys counts nothing for the others. -/
theorem sum_map_filterMap (pick : κ → Option ρ) (amount : ρ → Int) (keys : List κ) :
    ((keys.filterMap pick).map amount).sum =
      (keys.map fun key => ((pick key).map amount).getD 0).sum := by
  induction keys with
  | nil => rfl
  | cons first rest inductionHypothesis =>
      rw [List.map_cons, List.sum_cons, ← inductionHypothesis]
      cases picked : pick first with
      | none => simp [picked]
      | some row => simp [picked]

/-! ## Tables that agree on a column -/

omit [DecidableEq κ] in
/-- What a selection by a column reads of it depends on nothing else. -/
theorem map_filter_of_map_eq {column : ρ → κ} {selected : ρ → Bool}
    (byColumn : ∀ row other, column row = column other → selected row = selected other)
    {first second : List ρ} (same : first.map column = second.map column) :
    (first.filter selected).map column = (second.filter selected).map column := by
  induction first generalizing second with
  | nil =>
      rw [List.map_eq_nil_iff.mp same.symm]
  | cons row rest inductionHypothesis =>
      cases second with
      | nil => cases same
      | cons other others =>
          simp only [List.map_cons, List.cons.injEq] at same
          have alike := byColumn row other same.1
          cases isSelected : selected row with
          | false =>
              rw [List.filter_cons_of_neg (by simp [isSelected]),
                List.filter_cons_of_neg (by simp [← alike, isSelected])]
              exact inductionHypothesis same.2
          | true =>
              rw [List.filter_cons_of_pos isSelected,
                List.filter_cons_of_pos (alike ▸ isSelected), List.map_cons, List.map_cons,
                same.1, inductionHypothesis same.2]

omit [DecidableEq κ] in
/-- What a change of other rows leaves of a selection. -/
theorem filter_map_of_kept {change : ρ → ρ} {selected : ρ → Bool} {table : List ρ}
    (kept : ∀ row ∈ table, selected (change row) = selected row)
    (same : ∀ row ∈ table, selected row = true → change row = row) :
    (table.map change).filter selected = table.filter selected := by
  have unchanged : ∀ row ∈ table.filter selected, change row = row := by
    intro row rowMem
    rcases List.mem_filter.mp rowMem with ⟨stored, isSelected⟩
    exact same row stored isSelected
  have sameSelection : table.filter (selected ∘ change) = table.filter selected :=
    List.filter_congr kept
  rw [List.filter_map, sameSelection, List.map_congr_left unchanged, List.map_id']

omit [DecidableEq κ] in
/-- A row that a change of other rows leaves alone is found as before. -/
theorem find?_map_of_kept {change : ρ → ρ} {selected : ρ → Bool} {table : List ρ}
    (kept : ∀ row ∈ table, selected (change row) = selected row)
    (same : ∀ row ∈ table, selected row = true → change row = row) :
    (table.map change).find? selected = table.find? selected := by
  rw [← List.head?_filter, ← List.head?_filter, filter_map_of_kept kept same]

/-- A stored row is found by its unique key. -/
theorem find?_key_of_mem {column : ρ → κ} {table : List ρ}
    (unique : (table.map column).Nodup) {row : ρ} (stored : row ∈ table) :
    table.find? (column · = column row) = some row := by
  cases found : table.find? (column · = column row) with
  | none =>
      rw [List.find?_eq_none] at found
      exact absurd (decide_eq_true rfl) (found row stored)
  | some other =>
      have sameKey : column other = column row := by simpa using List.find?_some found
      rw [List.inj_on_of_nodup_map unique (List.mem_of_find?_eq_some found) stored sameKey]

/-- Of parts that are each of their own key, the rows of one key are its part. -/
theorem filter_flatMap_part {ι : Type u} {key : ι → κ} {column : ρ → κ}
    {part : ι → List ρ} {items : List ι} (distinct : (items.map key).Nodup)
    (ofPart : ∀ item ∈ items, ∀ row ∈ part item, column row = key item) {item : ι}
    (listed : item ∈ items) :
    (items.flatMap part).filter (column · = key item) = part item := by
  induction items with
  | nil => cases listed
  | cons first rest inductionHypothesis =>
      rw [List.map_cons, List.nodup_cons] at distinct
      have ofRest := fun other otherMem =>
        ofPart other (List.mem_cons_of_mem first otherMem)
      rw [List.flatMap_cons, List.filter_append]
      rcases List.mem_cons.mp listed with rfl | later
      · have none : (rest.flatMap part).filter (column · = key item) = [] := by
          apply List.filter_eq_nil_iff.mpr
          intro row rowMem isKey
          rcases List.mem_flatMap.mp rowMem with ⟨other, otherMem, inPart⟩
          apply distinct.1
          rw [← of_decide_eq_true isKey, ofRest other otherMem row inPart]
          exact List.mem_map_of_mem otherMem
        rw [none, List.append_nil, List.filter_eq_self]
        exact fun row inPart => decide_eq_true (ofPart item List.mem_cons_self row inPart)
      · have none : (part first).filter (column · = key item) = [] := by
          apply List.filter_eq_nil_iff.mpr
          intro row inPart isKey
          apply distinct.1
          rw [← ofPart first List.mem_cons_self row inPart, of_decide_eq_true isKey]
          exact List.mem_map_of_mem later
        rw [none, List.nil_append]
        exact inductionHypothesis distinct.2 ofRest later

/-! ## The order of a table -/

/-- The keys of a table stand in the order of its index. -/
theorem pairwise_idxOf {keys : List κ} (distinct : keys.Nodup) :
    keys.Pairwise fun first second => keys.idxOf first < keys.idxOf second := by
  rw [List.pairwise_iff_getElem]
  intro first second firstInside secondInside before
  rwa [distinct.idxOf_getElem first firstInside, distinct.idxOf_getElem second secondInside]

end OrderToCash.Table
