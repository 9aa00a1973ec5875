import Mathlib.Data.List.Sort
import Mathlib.Data.Prod.Lex
import Mathlib.Logic.Function.Iterate

/-!
# Causal order of timed entries

An entry has an identity, happened at an instant, and may name the identity of
the entry that caused it.  Entries are ordered by their instants, entries of one
instant by their depth below the first cause among them, and entries of one
depth by their identities.

The depth is computed in rounds, each from the depths of the round before: as
many rounds as there are entries reach every depth of an acyclic forest and end
on a cycle as well.
-/

namespace OrderToCash.Causal

universe u v w

/-- What the order reads of an entry. -/
structure Keys (α : Type u) (ι : Type v) (τ : Type w) where
  eventId : α → ι
  causationId : α → Option ι
  occurredAt : α → τ

variable {α : Type u} {ι : Type v} {τ : Type w} [LinearOrder ι] [LinearOrder τ]

namespace Keys

variable (keys : Keys α ι τ)

/-- One entry caused another of its own instant. -/
def Causes (cause effect : α) : Prop :=
  keys.causationId effect = some (keys.eventId cause) ∧
    keys.occurredAt cause = keys.occurredAt effect ∧
    keys.eventId cause ≠ keys.eventId effect

instance (cause effect : α) : Decidable (keys.Causes cause effect) :=
  inferInstanceAs (Decidable (_ ∧ _ ∧ _))

/-- One round: every depth anew, from the depths before the round. -/
def relax (entries : List (α × Nat)) : List (α × Nat) :=
  entries.map fun entry =>
    (entry.1,
      match entries.find? fun cause => keys.Causes cause.1 entry.1 with
      | some cause => cause.2 + 1
      | none => 0)

def withDepths (entries : List α) : List (α × Nat) :=
  keys.relax^[entries.length] (entries.map fun entry => (entry, 0))

/-- The key entries are sorted by. -/
def sortKey (entry : α × Nat) : τ ×ₗ (Nat ×ₗ ι) :=
  toLex (keys.occurredAt entry.1, toLex (entry.2, keys.eventId entry.1))

/-- The entries in their causal order. -/
def causalOrder (entries : List α) : List α :=
  ((keys.withDepths entries).insertionSort fun first second =>
    keys.sortKey first ≤ keys.sortKey second).map Prod.fst

/-- The identities of the entries are distinct. -/
def Distinct (entries : List α) : Prop :=
  (entries.map keys.eventId).Nodup

/-! ## Depths -/

/-- The depth of an entry among others after a number of rounds. -/
def depthAfter (entries : List α) : Nat → α → Nat
  | 0, _ => 0
  | rounds + 1, entry =>
      match entries.find? fun cause => keys.Causes cause entry with
      | some cause => depthAfter entries rounds cause + 1
      | none => 0

def depth (entries : List α) (entry : α) : Nat :=
  keys.depthAfter entries entries.length entry

/-- A round on entries with the depths of so many rounds gives those of one
more. -/
theorem relax_depthAfter (entries : List α) (rounds : Nat) :
    keys.relax (entries.map fun entry => (entry, keys.depthAfter entries rounds entry)) =
      entries.map fun entry => (entry, keys.depthAfter entries (rounds + 1) entry) := by
  rw [relax, List.map_map]
  apply List.map_congr_left
  intro entry _
  have sameCause : (entries.find?
      ((fun cause => decide (keys.Causes cause.1 entry)) ∘
        fun cause => (cause, keys.depthAfter entries rounds cause))) =
          entries.find? fun cause => decide (keys.Causes cause entry) := rfl
  simp only [Function.comp_apply, List.find?_map, sameCause, depthAfter, Prod.mk.injEq,
    true_and]
  cases entries.find? fun cause => decide (keys.Causes cause entry) with
  | none => rfl
  | some cause => rfl

theorem withDepths_eq (entries : List α) :
    keys.withDepths entries =
      entries.map fun entry => (entry, keys.depth entries entry) := by
  have rounds : ∀ count,
      keys.relax^[count] (entries.map fun entry => (entry, 0)) =
        entries.map fun entry => (entry, keys.depthAfter entries count entry) := by
    intro count
    induction count with
    | zero => rfl
    | succ count inductionHypothesis =>
        rw [Function.iterate_succ_apply', inductionHypothesis, relax_depthAfter]
  exact rounds entries.length

/-! ## The order -/

/-- An entry comes no later than another, among given entries. -/
def AtMost (entries : List α) (first second : α) : Prop :=
  keys.sortKey (first, keys.depth entries first) ≤
    keys.sortKey (second, keys.depth entries second)

instance (entries : List α) (first second : α) :
    Decidable (keys.AtMost entries first second) :=
  inferInstanceAs (Decidable (_ ≤ _))

theorem atMost_trans (entries : List α) {first second third : α}
    (before : keys.AtMost entries first second)
    (after : keys.AtMost entries second third) : keys.AtMost entries first third :=
  le_trans before after

theorem atMost_total (entries : List α) (first second : α) :
    keys.AtMost entries first second ∨ keys.AtMost entries second first :=
  le_total _ _

instance (entries : List α) : IsTrans α (keys.AtMost entries) :=
  ⟨fun _ _ _ => keys.atMost_trans entries⟩

instance (entries : List α) : Std.Total (keys.AtMost entries) :=
  ⟨keys.atMost_total entries⟩

/-- No two identities share a place. -/
theorem eventId_eq_of_atMost (entries : List α) {first second : α}
    (before : keys.AtMost entries first second)
    (after : keys.AtMost entries second first) :
    keys.eventId first = keys.eventId second := by
  have same := le_antisymm before after
  exact congrArg (fun key => (ofLex (ofLex key).2).2) same

theorem occurredAt_le_of_atMost (entries : List α) {first second : α}
    (before : keys.AtMost entries first second) :
    keys.occurredAt first ≤ keys.occurredAt second := by
  rcases (Prod.Lex.le_iff.mp before) with earlier | ⟨same, -⟩
  · exact le_of_lt earlier
  · exact le_of_eq same

theorem causalOrder_eq (entries : List α) :
    keys.causalOrder entries = entries.insertionSort (keys.AtMost entries) := by
  unfold causalOrder
  rw [withDepths_eq]
  have moved := List.map_insertionSort (keys.AtMost entries)
    (fun first second => keys.sortKey first ≤ keys.sortKey second)
    (fun entry => (entry, keys.depth entries entry)) entries
    (fun _ _ _ _ => Iff.rfl)
  rw [← moved, List.map_map]
  exact List.map_id _

/-- Nothing is lost and nothing is added. -/
theorem causalOrder_perm (entries : List α) :
    (keys.causalOrder entries).Perm entries := by
  rw [causalOrder_eq]
  exact List.perm_insertionSort _ entries

@[simp]
theorem mem_causalOrder {entries : List α} {entry : α} :
    entry ∈ keys.causalOrder entries ↔ entry ∈ entries :=
  (keys.causalOrder_perm entries).mem_iff

theorem pairwise_causalOrder (entries : List α) :
    (keys.causalOrder entries).Pairwise (keys.AtMost entries) := by
  rw [causalOrder_eq]
  exact List.pairwise_insertionSort _ entries

omit [LinearOrder ι] [LinearOrder τ] in
theorem Distinct.perm {entries entries' : List α} (distinct : keys.Distinct entries)
    (perm : entries.Perm entries') : keys.Distinct entries' :=
  (perm.map keys.eventId).nodup_iff.mp distinct

omit [LinearOrder ι] [LinearOrder τ] in
theorem Distinct.inj {entries : List α} (distinct : keys.Distinct entries)
    {first second : α} (firstMem : first ∈ entries) (secondMem : second ∈ entries)
    (same : keys.eventId first = keys.eventId second) : first = second :=
  List.inj_on_of_nodup_map distinct firstMem secondMem same

omit [LinearOrder ι] [LinearOrder τ] in
/-- Lists of the same entries are equal if their identities are. -/
theorem eq_of_eventIds {first second : List α}
    (inj : ∀ one ∈ first, ∀ other ∈ second,
      keys.eventId one = keys.eventId other → one = other)
    (same : first.map keys.eventId = second.map keys.eventId) : first = second := by
  induction first generalizing second with
  | nil => exact (List.map_eq_nil_iff.mp same.symm).symm
  | cons head tail inductionHypothesis =>
      cases second with
      | nil => contradiction
      | cons head' tail' =>
          rw [List.map_cons, List.map_cons, List.cons.injEq] at same
          have heads := inj head List.mem_cons_self head' List.mem_cons_self same.1
          rw [heads, inductionHypothesis ?_ same.2]
          intro one oneMem other otherMem
          exact inj one (List.mem_cons_of_mem _ oneMem) other
            (List.mem_cons_of_mem _ otherMem)

/-! ## The order depends on the entries alone -/

/-- A search that at most one element satisfies does not see the order. -/
theorem find?_eq_of_perm {p : α → Bool} {entries entries' : List α}
    (perm : entries.Perm entries')
    (unique : ∀ first ∈ entries, ∀ second ∈ entries, p first = true →
      p second = true → first = second) :
    entries.find? p = entries'.find? p := by
  cases found : entries.find? p with
  | none =>
      rw [List.find?_eq_none] at found
      symm
      rw [List.find?_eq_none]
      intro entry entryMem
      exact found entry (perm.mem_iff.mpr entryMem)
  | some entry =>
      have carries := List.find?_some found
      have entryMem := List.mem_of_find?_eq_some found
      cases found' : entries'.find? p with
      | none =>
          rw [List.find?_eq_none] at found'
          exact absurd carries (found' entry (perm.mem_iff.mp entryMem))
      | some entry' =>
          have mem' := perm.mem_iff.mpr (List.mem_of_find?_eq_some found')
          rw [unique entry entryMem entry' mem' carries (List.find?_some found')]

theorem depth_eq_of_perm {entries entries' : List α} (distinct : keys.Distinct entries)
    (perm : entries.Perm entries') (entry : α) :
    keys.depth entries entry = keys.depth entries' entry := by
  have causes : ∀ effect,
      entries.find? (fun cause => decide (keys.Causes cause effect)) =
        entries'.find? fun cause => decide (keys.Causes cause effect) := by
    intro effect
    apply find?_eq_of_perm perm
    intro first firstMem second secondMem firstCauses secondCauses
    have firstNamed := (of_decide_eq_true firstCauses).1
    have secondNamed := (of_decide_eq_true secondCauses).1
    rw [firstNamed, Option.some.injEq] at secondNamed
    exact Distinct.inj keys distinct firstMem secondMem secondNamed
  have rounds : ∀ count entry,
      keys.depthAfter entries count entry = keys.depthAfter entries' count entry := by
    intro count
    induction count with
    | zero => exact fun _ => rfl
    | succ count inductionHypothesis =>
        intro entry
        simp only [depthAfter, causes, inductionHypothesis]
  rw [depth, depth, perm.length_eq, rounds]

theorem atMost_iff_of_perm {entries entries' : List α}
    (distinct : keys.Distinct entries) (perm : entries.Perm entries')
    (first second : α) :
    keys.AtMost entries first second ↔ keys.AtMost entries' first second := by
  rw [AtMost, AtMost, keys.depth_eq_of_perm distinct perm,
    keys.depth_eq_of_perm distinct perm]

/-- An arrangement of distinct entries that is in order is their causal order. -/
theorem eq_causalOrder {entries arranged : List α} (distinct : keys.Distinct entries)
    (perm : arranged.Perm entries) (sorted : arranged.Pairwise (keys.AtMost entries)) :
    arranged = keys.causalOrder entries := by
  apply List.Perm.eq_of_pairwise ?_ sorted (keys.pairwise_causalOrder entries)
    (perm.trans (keys.causalOrder_perm entries).symm)
  intro first second firstMem secondMem before after
  apply Distinct.inj keys distinct (perm.mem_iff.mp firstMem)
    ((keys.mem_causalOrder).mp secondMem)
  exact keys.eventId_eq_of_atMost entries before after

/-- The causal order does not see how the entries came. -/
theorem causalOrder_eq_of_perm {entries entries' : List α}
    (distinct : keys.Distinct entries) (perm : entries.Perm entries') :
    keys.causalOrder entries = keys.causalOrder entries' := by
  apply keys.eq_causalOrder (Distinct.perm keys distinct perm)
  · exact (keys.causalOrder_perm entries).trans perm
  · apply (keys.pairwise_causalOrder entries).imp
    intro first second
    exact (keys.atMost_iff_of_perm distinct perm first second).mp

theorem causalOrder_causalOrder {entries : List α} (distinct : keys.Distinct entries) :
    keys.causalOrder (keys.causalOrder entries) = keys.causalOrder entries :=
  keys.causalOrder_eq_of_perm
    (Distinct.perm keys distinct (keys.causalOrder_perm entries).symm)
    (keys.causalOrder_perm entries)

/-- The last entry is the one that none comes after. -/
theorem getLast?_causalOrder_eq_some_iff {entries : List α}
    (distinct : keys.Distinct entries) {entry : α} (entryMem : entry ∈ entries) :
    (keys.causalOrder entries).getLast? = some entry ↔
      ∀ other ∈ entries, keys.AtMost entries other entry := by
  have sorted := keys.pairwise_causalOrder entries
  rcases List.eq_nil_or_concat (keys.causalOrder entries) with
    empty | ⟨before, last, splits⟩
  · have ordered := (keys.mem_causalOrder).mpr entryMem
    rw [empty] at ordered
    exact absurd ordered List.not_mem_nil
  · rw [List.concat_eq_append] at splits
    rw [splits, List.pairwise_append] at sorted
    have lastMem : last ∈ entries := by
      rw [← keys.mem_causalOrder, splits]
      exact List.mem_append_right before (List.mem_singleton_self last)
    have upper : ∀ other ∈ entries, keys.AtMost entries other last := by
      intro other otherMem
      rw [← keys.mem_causalOrder, splits, List.mem_append, List.mem_singleton] at otherMem
      rcases otherMem with earlier | rfl
      · exact sorted.2.2 other earlier last (List.mem_singleton_self last)
      · exact le_refl _
    rw [splits, List.getLast?_append, List.getLast?_singleton, Option.some_or,
      Option.some.injEq]
    constructor
    · rintro rfl
      exact upper
    · intro latest
      apply Distinct.inj keys distinct lastMem entryMem
      exact keys.eventId_eq_of_atMost entries (latest last lastMem)
        (upper entry entryMem)

/-- A change of the entries that keeps what the order reads. -/
structure Preserves (change : α → α) : Prop where
  eventId : ∀ entry, keys.eventId (change entry) = keys.eventId entry
  causationId : ∀ entry, keys.causationId (change entry) = keys.causationId entry
  occurredAt : ∀ entry, keys.occurredAt (change entry) = keys.occurredAt entry

theorem Preserves.depth {change : α → α} (preserves : keys.Preserves change)
    (entries : List α) (entry : α) :
    keys.depth (entries.map change) (change entry) = keys.depth entries entry := by
  have rounds : ∀ count entry,
      keys.depthAfter (entries.map change) count (change entry) =
        keys.depthAfter entries count entry := by
    intro count
    induction count with
    | zero => exact fun _ => rfl
    | succ count inductionHypothesis =>
        intro entry
        have causes :
            ((fun cause => decide (keys.Causes cause (change entry))) ∘ change) =
              fun cause => decide (keys.Causes cause entry) := by
          funext cause
          apply decide_eq_decide.mpr
          simp only [Causes, preserves.eventId, preserves.causationId,
            preserves.occurredAt]
        simp only [depthAfter, List.find?_map, causes]
        cases entries.find? fun cause => decide (keys.Causes cause entry) with
        | none => rfl
        | some cause =>
            exact congrArg (· + 1) (inductionHypothesis cause)
  rw [Keys.depth, Keys.depth, List.length_map, rounds]

theorem Preserves.atMost {change : α → α} (preserves : keys.Preserves change)
    (entries : List α) (first second : α) :
    keys.AtMost (entries.map change) (change first) (change second) ↔
      keys.AtMost entries first second := by
  simp only [AtMost, sortKey, preserves.depth, preserves.eventId, preserves.occurredAt]

theorem Preserves.causalOrder {change : α → α} (preserves : keys.Preserves change)
    (entries : List α) :
    keys.causalOrder (entries.map change) = (keys.causalOrder entries).map change := by
  rw [causalOrder_eq, causalOrder_eq]
  symm
  apply List.map_insertionSort
  intro first _ second _
  exact (preserves.atMost keys entries first second).symm

end Keys

end OrderToCash.Causal
