import Mathlib.Data.List.Count
import Mathlib.Data.List.Perm.Subperm
import Mathlib.Data.List.Sort

/-!
# Reading a listing page by page

A page is the window of a listing that an offset and a size tell.  In a listing
by descending keys a row stands behind the rows of greater keys, so its place is
how many there are, and rows that are added can only move it further back.
-/

namespace OrderToCash.Table

universe u v

variable {α : Type u} {κ : Type v}

/-- The rows of a page; the first page is page one. -/
def pageAt (size page : Nat) (items : List α) : List α :=
  (items.drop ((page - 1) * size)).take size

theorem pageAt_succ (size page : Nat) (items : List α) :
    pageAt size (page + 1) items = (items.drop (page * size)).take size := by
  simp [pageAt]

theorem length_pageAt_succ (size page : Nat) (items : List α) :
    (pageAt size (page + 1) items).length =
      min size (items.length - page * size) := by
  simp [pageAt_succ]

theorem getElem?_pageAt_succ {size page place : Nat} {items : List α}
    (within : place < size) :
    (pageAt size (page + 1) items)[place]? = items[page * size + place]? := by
  rw [pageAt_succ, List.getElem?_take_of_lt within, List.getElem?_drop]

theorem mem_pageAt_of_getElem? {size page place : Nat} {items : List α}
    (within : place < size) {item : α}
    (stands : items[page * size + place]? = some item) :
    item ∈ pageAt size (page + 1) items := by
  rw [← getElem?_pageAt_succ within] at stands
  exact List.mem_of_getElem? stands

theorem mem_of_mem_pageAt {size page : Nat} {items : List α} {item : α}
    (listed : item ∈ pageAt size page items) : item ∈ items :=
  List.mem_of_mem_drop (List.mem_of_mem_take listed)

/-- The first pages together are the start of the listing. -/
theorem flatMap_pageAt (size pages : Nat) (items : List α) :
    ((List.range pages).flatMap fun page => pageAt size (page + 1) items) =
      items.take (pages * size) := by
  induction pages with
  | zero => simp
  | succ pages inductionHypothesis =>
      rw [List.range_succ, List.flatMap_append, inductionHypothesis]
      simp [pageAt_succ, Nat.succ_mul, List.take_add]

/-! ## The place of a row -/

variable [LinearOrder κ]

/-- How many rows are of a greater key. -/
def rankOf (key : α → κ) (value : κ) (items : List α) : Nat :=
  items.countP fun item => value < key item

/-- A listing by descending keys. -/
def Descending (key : α → κ) (items : List α) : Prop :=
  items.Pairwise fun first second => key second ≤ key first

variable {key : α → κ}

theorem descending_insertionSort (key : α → κ) (items : List α) :
    Descending key (items.insertionSort fun first second => key second ≤ key first) := by
  have : IsTrans α fun first second => key second ≤ key first :=
    ⟨fun _ _ _ earlier later => later.trans earlier⟩
  have : Std.Total fun first second : α => key second ≤ key first :=
    ⟨fun first second => le_total (key second) (key first)⟩
  exact List.pairwise_insertionSort _ _

theorem rankOf_eq_of_perm {first second : List α} (perm : first.Perm second)
    (value : κ) : rankOf key value first = rankOf key value second :=
  perm.countP_eq _

/-- A row stands behind the rows of greater keys. -/
theorem getElem?_rankOf {items : List α} (sorted : Descending key items)
    (distinct : (items.map key).Nodup) {item : α} (listed : item ∈ items) :
    items[rankOf key (key item) items]? = some item := by
  induction items with
  | nil => cases listed
  | cons first rest inductionHypothesis =>
      rw [Descending, List.pairwise_cons] at sorted
      rw [List.map_cons, List.nodup_cons] at distinct
      rcases List.mem_cons.mp listed with rfl | later
      · have none : rankOf key (key item) (item :: rest) = 0 := by
          rw [rankOf, List.countP_eq_zero]
          intro other otherMem
          rcases List.mem_cons.mp otherMem with rfl | otherMem
          · simp
          · simpa using sorted.1 other otherMem
        rw [none, List.getElem?_cons_zero]
      · have differs : key item ≠ key first := fun same =>
          distinct.1 (same ▸ List.mem_map_of_mem later)
        have before : key item < key first :=
          lt_of_le_of_ne (sorted.1 item later) differs
        have oneMore : rankOf key (key item) (first :: rest) =
            rankOf key (key item) rest + 1 :=
          List.countP_cons_of_pos (by simpa using before)
        rw [oneMore, List.getElem?_cons_succ]
        exact inductionHypothesis sorted.2 distinct.2 later

theorem rankOf_lt_length {items : List α} {item : α} (listed : item ∈ items) :
    rankOf key (key item) items < items.length := by
  have some : ∃ other ∈ items, ¬ key item < key other :=
    ⟨item, listed, lt_irrefl _⟩
  exact List.countP_lt_length_iff.mpr (by simpa using some)

/-- Rows that are added only move a row back. -/
theorem rankOf_le_rankOf {before after : List α}
    (distinct : (before.map key).Nodup)
    (kept : before.map key ⊆ after.map key) (value : κ) :
    rankOf key value before ≤ rankOf key value after := by
  have counted (items : List α) : rankOf key value items =
      ((items.map key).filter (value < ·)).length := by
    rw [← List.countP_eq_length_filter, List.countP_map]
    rfl
  have subset : (before.map key).filter (value < ·) ⊆
      (after.map key).filter (value < ·) := by
    intro other otherMem
    rw [List.mem_filter] at otherMem ⊢
    exact ⟨kept otherMem.1, otherMem.2⟩
  rw [counted, counted]
  exact ((distinct.filter _).subperm subset).length_le

/-- A row that is not on the pages before and not on this one is on none up to
this one. -/
theorem succ_mul_le_rankOf {items : List α} (sorted : Descending key items)
    (distinct : (items.map key).Nodup) {item : α} (listed : item ∈ items)
    {size page : Nat} (behind : page * size ≤ rankOf key (key item) items)
    (absent : item ∉ pageAt size (page + 1) items) :
    (page + 1) * size ≤ rankOf key (key item) items := by
  by_contra reached
  have within : rankOf key (key item) items - page * size < size := by
    rw [Nat.succ_mul] at reached
    omega
  have stands : items[page * size +
      (rankOf key (key item) items - page * size)]? = some item := by
    rw [Nat.add_sub_cancel' behind]
    exact getElem?_rankOf sorted distinct listed
  exact absent (mem_pageAt_of_getElem? within stands)

/-- While a row is behind the pages read, they are full. -/
theorem length_pageAt_of_behind {items : List α} {item : α}
    (listed : item ∈ items) {size page : Nat}
    (behind : (page + 1) * size ≤ rankOf key (key item) items) :
    (pageAt size (page + 1) items).length = size := by
  have shorter : rankOf key (key item) items < items.length :=
    rankOf_lt_length listed
  rw [length_pageAt_succ, Nat.min_eq_left]
  rw [Nat.succ_mul] at behind
  omega

/-! ## Rows of one key

The rows of one key stand next to each other in any order, so the places they
take are the same in every listing of the same rows.  A boundary between two of
them tears them apart.
-/

/-- The rows of a greater key come first. -/
theorem take_rankOf {items : List α} (sorted : Descending key items) (value : κ) :
    items.take (rankOf key value items) = items.filter (value < key ·) := by
  induction items with
  | nil => rfl
  | cons first rest inductionHypothesis =>
      rw [Descending, List.pairwise_cons] at sorted
      by_cases greater : value < key first
      · have oneMore : rankOf key value (first :: rest) = rankOf key value rest + 1 :=
          List.countP_cons_of_pos (by simpa using greater)
        rw [oneMore, List.take_succ_cons, inductionHypothesis sorted.2,
          List.filter_cons_of_pos (by simpa using greater)]
      · have noneGreater : ∀ item ∈ first :: rest, ¬ value < key item := by
          intro item itemMem
          rcases List.mem_cons.mp itemMem with rfl | itemMem
          · exact greater
          · exact fun later => greater (later.trans_le (sorted.1 item itemMem))
        have none : rankOf key value (first :: rest) = 0 :=
          List.countP_eq_zero.mpr (by simpa using noneGreater)
        rw [none, List.take_zero, eq_comm, List.filter_eq_nil_iff]
        simpa using noneGreater

/-- How many rows are of a key. -/
def countOf (key : α → κ) (value : κ) (items : List α) : Nat :=
  items.countP fun item => key item = value

/-- A row stands among the rows of its key, behind those of greater keys. -/
theorem place_of_getElem? {items : List α} (sorted : Descending key items)
    {place : Nat} {item : α} (stands : items[place]? = some item) :
    rankOf key (key item) items ≤ place ∧
      place < rankOf key (key item) items + countOf key (key item) items := by
  induction items generalizing place with
  | nil => cases stands
  | cons first rest inductionHypothesis =>
      rw [Descending, List.pairwise_cons] at sorted
      unfold rankOf countOf at inductionHypothesis ⊢
      cases place with
      | zero =>
          obtain rfl : first = item := Option.some.inj stands
          have noneGreater : ∀ other ∈ rest, ¬ key first < key other :=
            fun other otherMem => (sorted.1 other otherMem).not_gt
          have none : rest.countP (fun other => key first < key other) = 0 :=
            List.countP_eq_zero.mpr (by simpa using noneGreater)
          simp [none]
      | succ place =>
          have later := inductionHypothesis sorted.2 stands
          have atMost : key item ≤ key first :=
            sorted.1 item (List.mem_of_getElem? stands)
          rcases atMost.lt_or_eq with less | same
          · have differs : key first ≠ key item := less.ne'
            simp only [List.countP_cons, less, differs, decide_true, decide_false,
              if_true]
            omega
          · simp only [List.countP_cons, same, lt_irrefl, decide_true,
              decide_false, if_true, Bool.false_eq_true, if_false]
            rw [same] at later
            omega

/-- Rows of one key stand on both sides of a boundary. -/
def Torn (key : α → κ) (boundary : Nat) (items : List α) : Prop :=
  ∃ item ∈ items, rankOf key (key item) items < boundary ∧
    boundary < rankOf key (key item) items + countOf key (key item) items

instance (boundary : Nat) (items : List α) : Decidable (Torn key boundary items) :=
  inferInstanceAs (Decidable (∃ item ∈ items, _ ∧ _))

theorem countOf_eq_of_perm {first second : List α} (perm : first.Perm second)
    (value : κ) : countOf key value first = countOf key value second :=
  perm.countP_eq _

/-- What stands before a boundary that tears nothing is the same in every
listing. -/
theorem perm_take_of_not_torn {items first second : List α}
    (firstPerm : first.Perm items) (secondPerm : second.Perm items)
    (firstSorted : Descending key first) (secondSorted : Descending key second)
    {boundary : Nat} (whole : ¬ Torn key boundary items) :
    (first.take boundary).Perm (second.take boundary) := by
  have perm := firstPerm.trans secondPerm.symm
  cases stands : first[boundary]? with
  | none =>
      have past := List.getElem?_eq_none_iff.mp stands
      rw [List.take_of_length_le past,
        List.take_of_length_le (perm.length_eq ▸ past)]
      exact perm
  | some item =>
      have place := place_of_getElem? firstSorted stands
      have itemMem := firstPerm.mem_iff.mp (List.mem_of_getElem? stands)
      have sameRank : rankOf key (key item) first = rankOf key (key item) items :=
        rankOf_eq_of_perm firstPerm _
      have sameCount : countOf key (key item) first = countOf key (key item) items :=
        countOf_eq_of_perm firstPerm _
      have start : boundary = rankOf key (key item) items := by
        by_contra differs
        refine whole ⟨item, itemMem, ?_, ?_⟩ <;> omega
      have firstTake := take_rankOf firstSorted (key item)
      have secondTake := take_rankOf secondSorted (key item)
      rw [sameRank, ← start] at firstTake
      rw [rankOf_eq_of_perm secondPerm, ← start] at secondTake
      rw [firstTake, secondTake]
      exact perm.filter _

/-- A page between boundaries that tear nothing is the same in every listing. -/
theorem perm_pageAt_of_not_torn {items first second : List α}
    (firstPerm : first.Perm items) (secondPerm : second.Perm items)
    (firstSorted : Descending key first) (secondSorted : Descending key second)
    {size : Nat} (whole : ∀ boundary, ¬ Torn key (boundary * size) items)
    (page : Nat) :
    (pageAt size (page + 1) first).Perm (pageAt size (page + 1) second) := by
  have before := perm_take_of_not_torn firstPerm secondPerm firstSorted
    secondSorted (whole page)
  have upTo := perm_take_of_not_torn firstPerm secondPerm firstSorted
    secondSorted (whole (page + 1))
  rw [Nat.succ_mul, List.take_add, List.take_add] at upTo
  rw [pageAt_succ, pageAt_succ]
  exact (List.perm_append_left_iff _).mp (upTo.trans (before.symm.append_right _))

/-- Pages that tear nothing, each read from a listing of its own, together hold
the rows once. -/
theorem perm_flatMap_pageAt {items : List α} {listings : Nat → List α}
    (perm : ∀ page, (listings page).Perm items)
    (sorted : ∀ page, Descending key (listings page)) {size pages : Nat}
    (whole : ∀ boundary, ¬ Torn key (boundary * size) items)
    (enough : items.length ≤ pages * size) :
    ((List.range pages).flatMap fun page =>
      pageAt size (page + 1) (listings page)).Perm items := by
  have samePages : ((List.range pages).flatMap fun page =>
      pageAt size (page + 1) (listings page)).Perm
      ((List.range pages).flatMap fun page => pageAt size (page + 1) (listings 0)) :=
    List.Perm.flatMap_left _ fun page _ =>
      perm_pageAt_of_not_torn (perm _) (perm _) (sorted _) (sorted _) whole page
  rw [flatMap_pageAt, List.take_of_length_le ((perm 0).length_eq ▸ enough)] at samePages
  exact samePages.trans (perm 0)

/-- The rows of a greater key take the places before. -/
theorem rankOf_add_countOf_le {less greater : κ} (lt : less < greater)
    (items : List α) :
    rankOf key greater items + countOf key greater items ≤
      rankOf key less items := by
  induction items with
  | nil => exact le_rfl
  | cons first rest inductionHypothesis =>
      unfold rankOf countOf at inductionHypothesis ⊢
      simp only [List.countP_cons, decide_eq_true_eq]
      rcases lt_trichotomy greater (key first) with above | same | below
      · rw [if_pos above, if_neg above.ne', if_pos (lt.trans above)]
        omega
      · rw [← same, if_neg (lt_irrefl _), if_pos rfl, if_pos lt]
        omega
      · rw [if_neg below.not_gt, if_neg below.ne]
        omega

theorem rankOf_add_countOf_le_length (value : κ) (items : List α) :
    rankOf key value items + countOf key value items ≤ items.length := by
  induction items with
  | nil => exact le_rfl
  | cons first rest inductionHypothesis =>
      unfold rankOf countOf at inductionHypothesis ⊢
      simp only [List.countP_cons, decide_eq_true_eq, List.length_cons]
      rcases lt_trichotomy value (key first) with above | same | below
      · rw [if_pos above, if_neg above.ne']
        omega
      · rw [← same, if_neg (lt_irrefl _), if_pos rfl]
        omega
      · rw [if_neg below.not_gt, if_neg below.ne]
        omega

/-- The places of a key are taken by rows of it. -/
theorem exists_getElem?_of_place {items : List α} (sorted : Descending key items)
    {value : κ} {place : Nat} (notBefore : rankOf key value items ≤ place)
    (notAfter : place < rankOf key value items + countOf key value items) :
    ∃ item, items[place]? = some item ∧ key item = value := by
  have within := notAfter.trans_le (rankOf_add_countOf_le_length value items)
  have stands := List.getElem?_eq_getElem within
  have among := place_of_getElem? sorted stands
  refine ⟨items[place], stands, ?_⟩
  rcases lt_trichotomy (key items[place]) value with less | same | greater
  · have before : rankOf key value items + countOf key value items ≤
        rankOf key (key items[place]) items := rankOf_add_countOf_le less items
    omega
  · exact same
  · have before : rankOf key (key items[place]) items +
        countOf key (key items[place]) items ≤ rankOf key value items :=
      rankOf_add_countOf_le greater items
    omega

/-- Two neighbours of one key may stand the other way round. -/
theorem Descending.swap {before after : List α} {first second : α}
    (sorted : Descending key (before ++ first :: second :: after))
    (same : key first = key second) :
    Descending key (before ++ second :: first :: after) := by
  unfold Descending at sorted ⊢
  simp only [List.pairwise_append, List.pairwise_cons, List.mem_cons] at sorted ⊢
  rcases sorted with ⟨beforeSorted, ⟨-, secondAfter, afterSorted⟩, across⟩
  refine ⟨beforeSorted, ⟨?_, ?_, afterSorted⟩, ?_⟩
  · rintro item (rfl | itemMem)
    · exact same.le
    · exact secondAfter item itemMem
  · intro item itemMem
    exact same ▸ secondAfter item itemMem
  · rintro item itemMem other (rfl | rfl | otherMem)
    · exact across item itemMem _ (Or.inr (Or.inl rfl))
    · exact across item itemMem _ (Or.inl rfl)
    · exact across item itemMem _ (Or.inr (Or.inr otherMem))

theorem Torn.lt_length {boundary : Nat} {items : List α}
    (torn : Torn key boundary items) : boundary < items.length := by
  rcases torn with ⟨item, -, -, after⟩
  exact after.trans_le (rankOf_add_countOf_le_length (key item) items)

/-- A list around two neighbours. -/
theorem eq_append_of_getElem? {items : List α} {place : Nat} {first second : α}
    (firstStands : items[place]? = some first)
    (secondStands : items[place + 1]? = some second) :
    items = items.take place ++ first :: second :: items.drop (place + 2) := by
  rcases List.getElem?_eq_some_iff.mp firstStands with ⟨firstWithin, rfl⟩
  rcases List.getElem?_eq_some_iff.mp secondStands with ⟨secondWithin, rfl⟩
  rw [← List.drop_eq_getElem_cons secondWithin,
    ← List.drop_eq_getElem_cons firstWithin, List.take_append_drop]

/-- At a boundary that tears rows of one key apart, two listings of the same rows
may show one of them on both pages. -/
theorem exists_repeated_of_torn {items : List α} {size page : Nat}
    (positive : 0 < size) (torn : Torn key ((page + 1) * size) items) :
    ∃ first second, first.Perm items ∧ second.Perm items ∧
      Descending key first ∧ Descending key second ∧
      ∃ item, item ∈ pageAt size (page + 1) first ∧
        item ∈ pageAt size (page + 2) second := by
  rcases torn with ⟨row, -, before, after⟩
  let first := items.insertionSort fun first second => key second ≤ key first
  have perm : first.Perm items := List.perm_insertionSort _ _
  have sorted : Descending key first := descending_insertionSort key items
  rw [← rankOf_eq_of_perm perm] at before after
  rw [← countOf_eq_of_perm perm] at after
  let place := page * size + (size - 1)
  have boundary : (page + 1) * size = place + 1 := by
    rw [Nat.succ_mul]
    omega
  rw [boundary] at before after
  rcases exists_getElem?_of_place sorted (Nat.le_of_lt_succ before)
    ((Nat.lt_succ_self _).trans after) with ⟨last, lastStands, lastKey⟩
  rcases exists_getElem?_of_place sorted before.le after with
    ⟨next, nextStands, nextKey⟩
  have around := eq_append_of_getElem? lastStands nextStands
  let second := first.take place ++ next :: last :: first.drop (place + 2)
  have swapped : second.Perm first := by
    conv_rhs => rw [around]
    exact (List.Perm.swap last next _).append_left _
  have length : (first.take place).length = place :=
    List.length_take_of_le (List.getElem?_eq_some_iff.mp lastStands).1.le
  have repeatedStands : second[(page + 1) * size + 0]? = some last := by
    rw [Nat.add_zero, boundary, List.getElem?_append_right (by omega), length]
    simp
  exact ⟨first, second, perm, swapped.trans perm, sorted,
    (around ▸ sorted).swap (lastKey.trans nextKey.symm), last,
    mem_pageAt_of_getElem? (Nat.sub_lt positive Nat.one_pos) lastStands,
    mem_pageAt_of_getElem? positive repeatedStands⟩

end OrderToCash.Table
