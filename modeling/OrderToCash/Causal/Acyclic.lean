import OrderToCash.Causal.Order
import Mathlib.Data.List.Perm.Subperm
import Mathlib.Logic.Relation

/-!
# Causes come first

Where the causes of one instant form no cycle, as many rounds as there are
entries give every entry its true depth, one more than its cause's.  The causal
order then puts every cause that is not later than its effect before it.
-/

namespace OrderToCash.Causal

universe u v w

variable {α : Type u} {ι : Type v} {τ : Type w} [LinearOrder ι] [LinearOrder τ]

namespace Keys

variable (keys : Keys α ι τ)

/-- An entry names another one of its instant, or itself, as its cause. -/
def CausedBy (entries : List α) (effect cause : α) : Prop :=
  cause ∈ entries ∧ keys.causationId effect = some (keys.eventId cause) ∧
    keys.occurredAt cause = keys.occurredAt effect

/-- No entry is among the causes of its causes. -/
def Acyclic (entries : List α) : Prop :=
  ∀ entry ∈ entries, ¬ Relation.TransGen (keys.CausedBy entries) entry entry

variable {keys} {entries : List α}

theorem causedBy_of_find? {cause effect : α}
    (found : entries.find? (fun cause => keys.Causes cause effect) = some cause) :
    keys.CausedBy entries effect cause := by
  have causes := List.find?_some found
  have named := of_decide_eq_true causes
  exact ⟨List.mem_of_find?_eq_some found, named.1, named.2.1⟩

/-- In an acyclic group the cause an entry names is the one a round finds. -/
theorem Acyclic.find?_eq_some (acyclic : keys.Acyclic entries)
    (distinct : keys.Distinct entries) {cause effect : α}
    (effectMem : effect ∈ entries) (causedBy : keys.CausedBy entries effect cause) :
    entries.find? (fun cause => keys.Causes cause effect) = some cause := by
  rcases causedBy with ⟨causeMem, named, sameInstant⟩
  have differs : keys.eventId cause ≠ keys.eventId effect := by
    intro same
    have isSelf := Distinct.inj keys distinct causeMem effectMem same
    subst isSelf
    exact acyclic cause causeMem
      (Relation.TransGen.single ⟨causeMem, named, sameInstant⟩)
  have causes : keys.Causes cause effect := ⟨named, sameInstant, differs⟩
  cases found : entries.find? fun cause => keys.Causes cause effect with
  | none =>
      have absent := List.find?_eq_none.mp found cause causeMem
      exact absurd (decide_eq_true causes) absent
  | some other =>
      rcases causedBy_of_find? found with ⟨otherMem, otherNamed, _⟩
      rw [named, Option.some.injEq] at otherNamed
      rw [Distinct.inj keys distinct causeMem otherMem otherNamed]

/-- A depth that a round still changes has as many different causes above it as
there were rounds, by induction on the rounds. -/
theorem Acyclic.exists_causes (acyclic : keys.Acyclic entries) {rounds : Nat}
    {entry : α} (changes : keys.depthAfter entries (rounds + 1) entry ≠
      keys.depthAfter entries rounds entry) :
    ∃ causes : List α, causes.length = rounds + 1 ∧ causes.Nodup ∧
      ∀ cause ∈ causes, cause ∈ entries ∧
        Relation.TransGen (keys.CausedBy entries) entry cause := by
  induction rounds generalizing entry with
  | zero =>
      simp only [depthAfter] at changes
      cases found : entries.find? fun cause => keys.Causes cause entry with
      | none =>
          rw [found] at changes
          exact absurd rfl changes
      | some cause =>
          have causedBy := causedBy_of_find? found
          refine ⟨[cause], rfl, List.nodup_singleton cause, ?_⟩
          intro other otherMem
          rw [List.mem_singleton] at otherMem
          subst otherMem
          exact ⟨causedBy.1, Relation.TransGen.single causedBy⟩
  | succ rounds inductionHypothesis =>
      rw [depthAfter, depthAfter] at changes
      cases found : entries.find? fun cause => keys.Causes cause entry with
      | none =>
          rw [found] at changes
          exact absurd rfl changes
      | some cause =>
          have causedBy := causedBy_of_find? found
          rw [found] at changes
          have changesAbove : keys.depthAfter entries (rounds + 1) cause ≠
              keys.depthAfter entries rounds cause := by
            intro same
            exact changes (congrArg (· + 1) same)
          rcases inductionHypothesis changesAbove with
            ⟨causes, count, different, above⟩
          refine ⟨cause :: causes, congrArg (· + 1) count, ?_, ?_⟩
          · apply List.nodup_cons.mpr
            apply And.intro ?_ different
            intro again
            exact acyclic cause causedBy.1 (above cause again).2
          · intro other otherMem
            rcases List.mem_cons.mp otherMem with rfl | inCauses
            · exact ⟨causedBy.1, Relation.TransGen.single causedBy⟩
            · exact ⟨(above other inCauses).1,
                Relation.TransGen.head causedBy (above other inCauses).2⟩

/-- As many rounds as there are other entries are enough. -/
theorem Acyclic.depthAfter_stable (acyclic : keys.Acyclic entries) {rounds : Nat}
    (enough : entries.length ≤ rounds + 1) {entry : α} (entryMem : entry ∈ entries) :
    keys.depthAfter entries (rounds + 1) entry =
      keys.depthAfter entries rounds entry := by
  by_contra changes
  rcases acyclic.exists_causes changes with ⟨causes, count, different, above⟩
  have notAbove : entry ∉ causes := by
    intro again
    exact acyclic entry entryMem (above entry again).2
  have subset : entry :: causes ⊆ entries := by
    intro other otherMem
    rcases List.mem_cons.mp otherMem with rfl | inCauses
    · exact entryMem
    · exact (above other inCauses).1
  have fits := (List.subperm_of_subset (List.nodup_cons.mpr ⟨notAbove, different⟩)
    subset).length_le
  rw [List.length_cons, count] at fits
  omega

/-- The true depth: one more than the cause's. -/
theorem Acyclic.depth_of_causedBy (acyclic : keys.Acyclic entries)
    (distinct : keys.Distinct entries) {cause effect : α}
    (effectMem : effect ∈ entries) (causedBy : keys.CausedBy entries effect cause) :
    keys.depth entries effect = keys.depth entries cause + 1 := by
  have found := acyclic.find?_eq_some distinct effectMem causedBy
  cases count : entries.length with
  | zero =>
      rw [List.length_eq_zero_iff] at count
      rw [count] at effectMem
      cases effectMem
  | succ rounds =>
      have stable := acyclic.depthAfter_stable (Nat.le_of_eq count) causedBy.1
      unfold depth
      rw [count, stable, depthAfter, found]

/-- Of two elements of a list, one comes first. -/
theorem pair_sublist_or {items : List α} {first second : α}
    (firstMem : first ∈ items) (secondMem : second ∈ items)
    (differs : first ≠ second) :
    [first, second].Sublist items ∨ [second, first].Sublist items := by
  induction items with
  | nil => cases firstMem
  | cons head tail inductionHypothesis =>
      rcases List.mem_cons.mp firstMem with rfl | firstLater
      · rcases List.mem_cons.mp secondMem with rfl | secondLater
        · exact absurd rfl differs
        · exact Or.inl ((List.singleton_sublist.mpr secondLater).cons_cons first)
      · rcases List.mem_cons.mp secondMem with rfl | secondLater
        · exact Or.inr ((List.singleton_sublist.mpr firstLater).cons_cons second)
        · exact (inductionHypothesis firstLater secondLater).imp
            (List.Sublist.cons head) (List.Sublist.cons head)

/-- Every cause that is not later than its effect comes before it. -/
theorem Acyclic.sublist_causalOrder (acyclic : keys.Acyclic entries)
    (distinct : keys.Distinct entries) {cause effect : α}
    (causeMem : cause ∈ entries) (effectMem : effect ∈ entries)
    (named : keys.causationId effect = some (keys.eventId cause))
    (notLater : keys.occurredAt cause ≤ keys.occurredAt effect) :
    [cause, effect].Sublist (keys.causalOrder entries) := by
  -- The effect may not come before its cause, by its instant or by its depth.
  have notBefore : ¬ keys.AtMost entries effect cause := by
    intro before
    have sameInstant :=
      le_antisymm notLater (keys.occurredAt_le_of_atMost entries before)
    have deeper := acyclic.depth_of_causedBy distinct effectMem
      ⟨causeMem, named, sameInstant⟩
    rcases Prod.Lex.le_iff.mp before with earlier | ⟨_, within⟩
    · exact absurd sameInstant (ne_of_gt earlier)
    · rcases Prod.Lex.le_iff.mp within with shallower | ⟨sameDepth, _⟩
      · have shallower : keys.depth entries effect < keys.depth entries cause :=
          shallower
        omega
      · have sameDepth : keys.depth entries effect = keys.depth entries cause :=
          sameDepth
        omega
  have differs : cause ≠ effect := by
    rintro rfl
    exact notBefore (le_refl _)
  rcases pair_sublist_or (keys.mem_causalOrder.mpr causeMem)
      (keys.mem_causalOrder.mpr effectMem) differs with inOrder | reversed
  · exact inOrder
  · have sorted := (keys.pairwise_causalOrder entries).sublist reversed
    rw [List.pairwise_pair] at sorted
    exact absurd sorted notBefore

end Keys

end OrderToCash.Causal
