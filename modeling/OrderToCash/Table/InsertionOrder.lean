import OrderToCash.Table.Upsert

/-!
# Maps in insertion order

The language's map: its entries stand in the order their keys were first set,
setting a key it has changes the value in its place, and deleting a key gives
its place up.
-/

namespace OrderToCash.Table

universe u v

variable {κ : Type u} {ν : Type v} [DecidableEq κ]

/-- Set a key: in its place when the map has it, at the end otherwise. -/
def assign (key : κ) (value : ν) (entries : List (κ × ν)) : List (κ × ν) :=
  upsert Prod.fst (fun _ row => row) entries (key, value)

def valueOf? (key : κ) (entries : List (κ × ν)) : Option ν :=
  (entries.find? fun entry => entry.1 = key).map Prod.snd

def discard (key : κ) (entries : List (κ × ν)) : List (κ × ν) :=
  entries.filter fun entry => entry.1 ≠ key

theorem valueOf?_eq_some_iff {entries : List (κ × ν)}
    (distinct : (entries.map Prod.fst).Nodup) {key : κ} {value : ν} :
    valueOf? key entries = some value ↔ (key, value) ∈ entries := by
  unfold valueOf?
  rw [Option.map_eq_some_iff]
  constructor
  · rintro ⟨⟨foundKey, foundValue⟩, found, rfl⟩
    have sameKey : foundKey = key := by
      have selected := List.find?_some found
      exact of_decide_eq_true selected
    exact sameKey ▸ List.mem_of_find?_eq_some found
  · intro stored
    cases found : entries.find? fun entry => entry.1 = key with
    | none =>
        have absent := List.find?_eq_none.mp found (key, value) stored
        exact absurd (decide_eq_true rfl) absent
    | some entry =>
        have sameKey : entry.1 = key := by
          have selected := List.find?_some found
          exact of_decide_eq_true selected
        have same : entry = (key, value) :=
          List.inj_on_of_nodup_map distinct (List.mem_of_find?_eq_some found)
            stored sameKey
        exact ⟨entry, rfl, congrArg Prod.snd same⟩

theorem valueOf?_eq_none_iff {entries : List (κ × ν)} {key : κ} :
    valueOf? key entries = none ↔ key ∉ entries.map Prod.fst := by
  unfold valueOf?
  rw [Option.map_eq_none_iff, List.find?_eq_none]
  constructor
  · intro none keyMem
    rcases List.mem_map.mp keyMem with ⟨entry, stored, sameKey⟩
    exact none entry stored (decide_eq_true sameKey)
  · intro absent entry stored selected
    exact absent (List.mem_map.mpr ⟨entry, stored, of_decide_eq_true selected⟩)

theorem nodup_assign {entries : List (κ × ν)}
    (distinct : (entries.map Prod.fst).Nodup) (key : κ) (value : ν) :
    ((assign key value entries).map Prod.fst).Nodup :=
  nodup_map_key_upsert (fun _ _ same => same.symm) distinct (key, value)

theorem assign_of_notMem {entries : List (κ × ν)} {key : κ}
    (absent : key ∉ entries.map Prod.fst) (value : ν) :
    assign key value entries = entries ++ [(key, value)] := by
  unfold assign upsert
  rw [if_neg absent]

theorem length_assign_of_mem {entries : List (κ × ν)} {key : κ}
    (present : key ∈ entries.map Prod.fst) (value : ν) :
    (assign key value entries).length = entries.length := by
  unfold assign upsert
  rw [if_pos present, List.length_map]

/-- Setting a key says what it maps to and leaves every other key alone. -/
theorem mem_assign {entries : List (κ × ν)} {key other : κ} {value stored : ν} :
    (other, stored) ∈ assign key value entries ↔
      (other = key ∧ stored = value) ∨
        (other ≠ key ∧ (other, stored) ∈ entries) := by
  by_cases present : key ∈ entries.map Prod.fst
  · unfold assign upsert
    rw [if_pos present, List.mem_map]
    constructor
    · rintro ⟨⟨before, beforeValue⟩, beforeMem, updated⟩
      unfold updateRow at updated
      split at updated
      · exact Or.inl ⟨(congrArg Prod.fst updated).symm,
          (congrArg Prod.snd updated).symm⟩
      · rename_i differs
        cases updated
        exact Or.inr ⟨differs, beforeMem⟩
    · rintro (⟨rfl, rfl⟩ | ⟨differs, storedMem⟩)
      · rcases List.mem_map.mp present with ⟨before, beforeMem, sameKey⟩
        exact ⟨before, beforeMem, if_pos sameKey⟩
      · exact ⟨(other, stored), storedMem, if_neg differs⟩
  · rw [assign_of_notMem present, List.mem_append, List.mem_singleton,
      Prod.mk.injEq]
    constructor
    · rintro (storedMem | ⟨rfl, rfl⟩)
      · refine Or.inr ⟨?_, storedMem⟩
        rintro rfl
        exact present (List.mem_map_of_mem storedMem)
      · exact Or.inl ⟨rfl, rfl⟩
    · rintro (⟨rfl, rfl⟩ | ⟨_, storedMem⟩)
      · exact Or.inr ⟨rfl, rfl⟩
      · exact Or.inl storedMem

theorem mem_discard {entries : List (κ × ν)} {key other : κ} {stored : ν} :
    (other, stored) ∈ discard key entries ↔
      other ≠ key ∧ (other, stored) ∈ entries := by
  unfold discard
  rw [List.mem_filter, decide_eq_true_eq, and_comm]

theorem nodup_discard {entries : List (κ × ν)}
    (distinct : (entries.map Prod.fst).Nodup) (key : κ) :
    ((discard key entries).map Prod.fst).Nodup :=
  (List.filter_sublist.map Prod.fst).nodup distinct

end OrderToCash.Table
