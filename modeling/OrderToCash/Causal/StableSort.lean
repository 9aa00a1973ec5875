import OrderToCash.Causal.Order

/-!
# Stable sorting by a key

Sorting by a key keeps the elements of each key in the order they came in.  That
and the order of the keys determine the result.
-/

namespace OrderToCash.Causal

universe u v

variable {α : Type u} {τ : Type v} [LinearOrder τ]

/-- A stable sort by ascending keys. -/
def sortByKey (key : α → τ) (items : List α) : List α :=
  items.insertionSort fun first second => key first ≤ key second

/-- The elements of one key, in their order. -/
def block (key : α → τ) (value : τ) (items : List α) : List α :=
  items.filter fun item => key item = value

variable (key : α → τ)

instance isTrans_key : IsTrans α (fun first second => key first ≤ key second) :=
  ⟨fun _ _ _ => le_trans⟩

instance total_key : Std.Total (fun first second : α => key first ≤ key second) :=
  ⟨fun _ _ => le_total _ _⟩

theorem sortByKey_perm (items : List α) : (sortByKey key items).Perm items :=
  List.perm_insertionSort _ items

theorem pairwise_sortByKey (items : List α) :
    (sortByKey key items).Pairwise fun first second => key first ≤ key second :=
  List.pairwise_insertionSort _ items

@[simp]
theorem block_append (value : τ) (first second : List α) :
    block key value (first ++ second) = block key value first ++ block key value second :=
  List.filter_append ..

theorem mem_block {value : τ} {items : List α} {item : α} :
    item ∈ block key value items ↔ item ∈ items ∧ key item = value := by
  simp [block]

/-- An element is inserted before the elements of its key. -/
theorem block_orderedInsert (value : τ) (item : α) (items : List α) :
    block key value
        (items.orderedInsert (fun first second => key first ≤ key second) item) =
      block key value (item :: items) := by
  induction items with
  | nil => rfl
  | cons first rest inductionHypothesis =>
      rw [List.orderedInsert_cons]
      by_cases before : key item ≤ key first
      · rw [if_pos before]
      · rw [if_neg before]
        unfold block at inductionHypothesis ⊢
        rw [List.filter_cons, inductionHypothesis]
        by_cases firstIn : key first = value
        · have itemOut : key item ≠ value := by
            intro itemIn
            exact before (le_of_eq (itemIn.trans firstIn.symm))
          simp [firstIn, itemOut]
        · simp [List.filter_cons, firstIn]

theorem block_sortByKey (value : τ) (items : List α) :
    block key value (sortByKey key items) = block key value items := by
  induction items with
  | nil => rfl
  | cons item rest inductionHypothesis =>
      unfold sortByKey at inductionHypothesis ⊢
      rw [List.insertionSort_cons, block_orderedInsert]
      unfold block at inductionHypothesis ⊢
      rw [List.filter_cons, List.filter_cons, inductionHypothesis]

/-- Lists that ascend in their keys are equal if their blocks are. -/
theorem eq_of_blocks {first second : List α}
    (firstSorted : first.Pairwise fun one other => key one ≤ key other)
    (secondSorted : second.Pairwise fun one other => key one ≤ key other)
    (blocks : ∀ value, block key value first = block key value second) :
    first = second := by
  have mem : ∀ item, item ∈ first ↔ item ∈ second := by
    intro item
    have member := congrArg (item ∈ ·) (blocks (key item))
    simpa [mem_block] using member
  induction first generalizing second with
  | nil =>
      cases second with
      | nil => rfl
      | cons head tail => exact absurd ((mem head).mpr List.mem_cons_self) List.not_mem_nil
  | cons head tail inductionHypothesis =>
      cases second with
      | nil => exact absurd ((mem head).mp List.mem_cons_self) List.not_mem_nil
      | cons head' tail' =>
          rw [List.pairwise_cons] at firstSorted secondSorted
          have below : key head ≤ key head' := by
            rcases List.mem_cons.mp ((mem head').mpr List.mem_cons_self) with rfl | later
            · exact le_refl _
            · exact firstSorted.1 head' later
          have above : key head' ≤ key head := by
            rcases List.mem_cons.mp ((mem head).mp List.mem_cons_self) with rfl | later
            · exact le_refl _
            · exact secondSorted.1 head later
          have sameKey := le_antisymm below above
          have heads := blocks (key head)
          simp only [block, List.filter_cons, sameKey, decide_true, if_true] at heads
          rw [List.cons.injEq] at heads
          rcases heads with ⟨rfl, -⟩
          have tails : ∀ value, block key value tail = block key value tail' := by
            intro value
            have both := blocks value
            unfold block at both ⊢
            rw [List.filter_cons, List.filter_cons] at both
            by_cases inBlock : key head = value
            · simpa [inBlock] using both
            · simpa [inBlock] using both
          rw [inductionHypothesis firstSorted.2 secondSorted.2 tails]
          intro item
          have member := congrArg (item ∈ ·) (tails (key item))
          simpa [mem_block] using member

/-- Sorting by a key keeps what ascends already in its order. -/
theorem sublist_sortByKey {items kept : List α} (sublist : kept.Sublist items)
    (ascends : kept.Pairwise fun first second => key first ≤ key second) :
    kept.Sublist (sortByKey key items) :=
  List.sublist_insertionSort ascends sublist

theorem sortByKey_map {β : Type u} (change : β → α) (items : List β) :
    sortByKey key (items.map change) =
      (sortByKey (fun item => key (change item)) items).map change := by
  symm
  apply List.map_insertionSort
  exact fun _ _ _ _ => Iff.rfl

/-! ## Appending to a causal order -/

section Append

universe w

variable {ι : Type w} [LinearOrder ι] (keys : Keys α ι τ)

theorem Keys.ascends_causalOrder (entries : List α) :
    (keys.causalOrder entries).Pairwise fun first second =>
      keys.occurredAt first ≤ keys.occurredAt second :=
  (keys.pairwise_causalOrder entries).imp (keys.occurredAt_le_of_atMost entries)

/-- An entry appended by time alone takes its causal place exactly where it comes
last among the entries of its instant and the others keep their order. -/
theorem Keys.causalOrder_append_eq_sortByKey_iff {entries : List α} {entry : α}
    (distinct : keys.Distinct (entries ++ [entry]))
    (ascends : entries.Pairwise fun first second =>
      keys.occurredAt first ≤ keys.occurredAt second) :
    keys.causalOrder (entries ++ [entry]) =
        sortByKey keys.occurredAt (entries ++ [entry]) ↔
      (∀ other ∈ entries, keys.occurredAt other = keys.occurredAt entry →
        keys.AtMost (entries ++ [entry]) other entry) ∧
        entries.Pairwise (keys.AtMost (entries ++ [entry])) := by
  constructor
  · intro agree
    have sorted := keys.pairwise_causalOrder (entries ++ [entry])
    rw [agree] at sorted
    constructor
    · intro other otherMem same
      have pair : [other, entry].Sublist (entries ++ [entry]) :=
        (List.singleton_sublist.mpr otherMem).append_right [entry]
      have kept := sublist_sortByKey keys.occurredAt pair (by simp [same])
      have ordered := sorted.sublist kept
      rw [List.pairwise_pair] at ordered
      exact ordered
    · exact sorted.sublist
        (sublist_sortByKey keys.occurredAt (List.sublist_append_left entries [entry])
          ascends)
  · rintro ⟨last, kept⟩
    apply eq_of_blocks keys.occurredAt (keys.ascends_causalOrder _)
      (pairwise_sortByKey keys.occurredAt _)
    intro instant
    rw [block_sortByKey]
    -- Both blocks are in causal order and have the same entries.
    apply List.Perm.eq_of_pairwise ?_ ((keys.pairwise_causalOrder _).filter _) ?_
      ((keys.causalOrder_perm _).filter _)
    · intro first second firstMem secondMem before after
      have firstIn := (mem_block keys.occurredAt).mp firstMem
      have secondIn := (mem_block keys.occurredAt).mp secondMem
      apply Keys.Distinct.inj keys distinct ((keys.mem_causalOrder).mp firstIn.1)
        secondIn.1
      exact keys.eventId_eq_of_atMost _ before after
    · change (block keys.occurredAt instant (entries ++ [entry])).Pairwise _
      rw [block_append, List.pairwise_append]
      apply And.intro (kept.filter _)
      constructor
      · by_cases own : keys.occurredAt entry = instant
        · simp [block, own]
        · simp [block, own]
      · intro other otherMem new newMem
        rcases (mem_block keys.occurredAt).mp otherMem with ⟨otherIn, otherAt⟩
        rcases (mem_block keys.occurredAt).mp newMem with ⟨newIn, newAt⟩
        rw [List.mem_singleton] at newIn
        subst newIn
        exact last other otherIn (otherAt.trans newAt.symm)

end Append

end OrderToCash.Causal
