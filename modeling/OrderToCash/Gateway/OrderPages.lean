import OrderToCash.Gateway.OrderList

/-!
# When the pages of the order list partition it

The total counts every document a filter selects, and each page is a window of a
listing of its own.  So the pages list each order once exactly when no selected
document lacks its header and no page boundary falls between documents of one
date.
-/

namespace OrderToCash.Gateway

open OrderToCash.Kernel
open OrderToCash.Projector (OrderTimelineDocument placeholderSkeleton)
open OrderToCash.Table

/-! ## Page counts -/

theorem le_pageCount_mul {size : Nat} (positive : 0 < size) (total : Nat) :
    total ≤ MongoSession.pageCount total size * size := by
  have covered := Nat.lt_mul_div_succ (total + size - 1) positive
  rw [Nat.mul_comm, Nat.succ_mul] at covered
  unfold MongoSession.pageCount
  omega

theorem lt_pageCount {size total page : Nat} (positive : 0 < size)
    (within : page * size < total) : page < MongoSession.pageCount total size := by
  rw [MongoSession.pageCount, Nat.lt_div_iff_mul_lt positive]
  omega

/-! ## Summaries -/

theorem orderId_of_toOrderSummary {document : OrderTimelineDocument}
    {summary : OrderSummary} (shaped : toOrderSummary document = some summary) :
    summary.orderId = document.orderId := by
  simp only [toOrderSummary, Option.bind_eq_bind, Option.bind_eq_some_iff,
    Option.some.injEq] at shaped
  rcases shaped with ⟨_, -, _, -, _, -, _, -, _, -, _, -, rfl⟩
  rfl

/-- Documents that all have a header are listed under their identifiers. -/
theorem map_orderId_filterMap {documents : List OrderTimelineDocument}
    (complete : ∀ document ∈ documents, (toOrderSummary document).isSome) :
    (documents.filterMap toOrderSummary).map OrderSummary.orderId =
      documents.map OrderTimelineDocument.orderId := by
  induction documents with
  | nil => rfl
  | cons document rest inductionHypothesis =>
      rcases Option.isSome_iff_exists.mp (complete document List.mem_cons_self) with
        ⟨summary, shaped⟩
      have restEq := inductionHypothesis fun other otherMem =>
        complete other (List.mem_cons_of_mem _ otherMem)
      simp only [List.filterMap_cons, shaped, List.map_cons, restEq,
        orderId_of_toOrderSummary shaped]

theorem OrderCollection.eq_of_orderId_eq (collection : OrderCollection)
    {filter : OrderListFilter} {first second : OrderTimelineDocument}
    (firstMem : first ∈ collection.selected filter)
    (secondMem : second ∈ collection.selected filter)
    (same : first.orderId = second.orderId) : first = second :=
  List.inj_on_of_nodup_map collection.nodup_ids (List.mem_of_mem_filter firstMem)
    (List.mem_of_mem_filter secondMem) same

namespace MongoSession

variable {collection : OrderCollection}

/-- The documents on the pages a request's total takes. -/
def documentsOnPages (session : MongoSession collection) (filter : OrderListFilter) :
    List OrderTimelineDocument :=
  (List.range (pageCount (collection.selected filter).length filter.pageSize)).flatMap
    fun page => pageAt filter.pageSize (page + 1) (session.listed (filter.atPage page))

variable (session : MongoSession collection) {filter : OrderListFilter}

theorem ordersOnPages_eq :
    session.ordersOnPages filter =
      (session.documentsOnPages filter).filterMap toOrderSummary := by
  rw [documentsOnPages, List.filterMap_flatMap]
  rfl

theorem mem_selected_of_mem_documentsOnPages {document : OrderTimelineDocument}
    (listed : document ∈ session.documentsOnPages filter) :
    document ∈ collection.selected filter := by
  rcases List.mem_flatMap.mp listed with ⟨page, -, onPage⟩
  exact (session.listed_perm (filter.atPage page)).mem_iff.mp
    (mem_of_mem_pageAt onPage)

/-- The pages partition when nothing is dropped and nothing torn apart. -/
theorem partitions_of_complete
    (complete : ∀ document ∈ collection.selected filter,
      document.headerComplete ∧ (toOrderSummary document).isSome)
    (whole : ∀ boundary, ¬ Torn dateKey (boundary * filter.pageSize)
      (collection.selected filter)) : session.Partitions filter := by
  have perm : (session.documentsOnPages filter).Perm (collection.selected filter) :=
    perm_flatMap_pageAt (fun page => session.listed_perm (filter.atPage page))
      (fun page => session.listed_sorted (filter.atPage page)) whole
      (le_pageCount_mul filter.pageSize_pos _)
  have shaped : (session.ordersOnPages filter).map OrderSummary.orderId =
      (session.documentsOnPages filter).map OrderTimelineDocument.orderId := by
    rw [ordersOnPages_eq]
    exact map_orderId_filterMap fun document listed =>
      (complete document (perm.mem_iff.mp listed)).2
  have allComplete : (collection.selected filter).filter (·.headerComplete) =
      collection.selected filter :=
    List.filter_eq_self.mpr fun document selected => (complete document selected).1
  constructor
  · rw [shaped, allComplete]
    exact perm.map _
  · intro page
    have lengths := congrArg List.length shaped
    rw [List.length_map, List.length_map, perm.length_eq] at lengths
    exact lengths.symm

/-- Pages that partition drop nothing: the total counts what they list. -/
theorem Partitions.complete {session : MongoSession collection}
    (partitions : session.Partitions filter) :
    ∀ document ∈ collection.selected filter,
      document.headerComplete ∧ (toOrderSummary document).isSome := by
  have counted : (collection.selected filter).length =
      ((collection.selected filter).filter (·.headerComplete)).length := by
    have total : (collection.selected filter).length =
        (session.ordersOnPages filter).length := partitions.total 0
    have listed := partitions.once.length_eq
    rw [List.length_map, List.length_map] at listed
    exact total.trans listed
  have flagged := List.length_filter_eq_length_iff.mp counted.symm
  intro document selected
  refine ⟨flagged document selected, ?_⟩
  have listed : document.orderId ∈
      (session.ordersOnPages filter).map OrderSummary.orderId :=
    partitions.once.mem_iff.mpr (List.mem_map_of_mem
      (List.mem_filter.mpr ⟨selected, flagged document selected⟩))
  rcases List.mem_map.mp listed with ⟨summary, summaryMem, sameId⟩
  rw [ordersOnPages_eq] at summaryMem
  rcases List.mem_filterMap.mp summaryMem with ⟨other, otherListed, shaped⟩
  have same : other = document :=
    collection.eq_of_orderId_eq
      (session.mem_selected_of_mem_documentsOnPages otherListed) selected
      ((orderId_of_toOrderSummary shaped).symm.trans sameId)
  exact same ▸ Option.isSome_of_mem shaped

/-- Pages that partition show no document twice. -/
theorem Partitions.nodup {session : MongoSession collection}
    (partitions : session.Partitions filter) :
    ((session.documentsOnPages filter).map OrderTimelineDocument.orderId).Nodup := by
  have complete := partitions.complete
  have shaped : (session.ordersOnPages filter).map OrderSummary.orderId =
      (session.documentsOnPages filter).map OrderTimelineDocument.orderId := by
    rw [ordersOnPages_eq]
    exact map_orderId_filterMap fun document listed =>
      (complete document (session.mem_selected_of_mem_documentsOnPages listed)).2
  rw [← shaped, partitions.once.nodup_iff]
  exact ((List.filter_sublist.trans List.filter_sublist).map _).nodup
    collection.nodup_ids

open scoped Classical in
/-- The database may list what one page asks for its own way. -/
noncomputable def override (filter : OrderListFilter) (listing : List OrderTimelineDocument)
    (perm : listing.Perm (collection.selected filter))
    (sorted : Descending dateKey listing) : MongoSession collection :=
  { listed := Function.update session.listed filter listing
    listed_perm := by
      intro other
      by_cases same : other = filter
      · subst same
        rw [Function.update_self]
        exact perm
      · rw [Function.update_of_ne same]
        exact session.listed_perm other
    listed_sorted := by
      intro other
      by_cases same : other = filter
      · subst same
        rw [Function.update_self]
        exact sorted
      · rw [Function.update_of_ne same]
        exact session.listed_sorted other }

section Override

variable {listing : List OrderTimelineDocument}
  (perm : listing.Perm (collection.selected filter)) (sorted : Descending dateKey listing)

theorem listed_override_self :
    (session.override filter listing perm sorted).listed filter = listing := by
  simp [override]

theorem listed_override_of_ne {other : OrderListFilter} (differs : other ≠ filter) :
    (session.override filter listing perm sorted).listed other = session.listed other := by
  simp [override, differs]

end Override

/-- A session that sorts every selection the same way. -/
def steady (collection : OrderCollection) : MongoSession collection :=
  { listed := fun filter => (collection.selected filter).insertionSort
      fun first second => dateKey second ≤ dateKey first
    listed_perm := fun _ => List.perm_insertionSort _ _
    listed_sorted := fun _ => descending_insertionSort _ _ }

/-- Documents of one date on both sides of a page boundary may come twice. -/
theorem exists_not_partitions_of_torn {boundary : Nat}
    (torn : Torn dateKey (boundary * filter.pageSize)
      (collection.selected filter)) :
    ∃ session : MongoSession collection, ¬ session.Partitions filter := by
  cases boundary with
  | zero =>
      rcases torn with ⟨_, -, before, -⟩
      rw [Nat.zero_mul] at before
      exact absurd before (Nat.not_lt_zero _)
  | succ page =>
      have within := torn.lt_length
      rcases exists_repeated_of_torn filter.pageSize_pos torn with
        ⟨first, second, firstPerm, secondPerm, firstSorted, secondSorted,
          document, onFirst, onSecond⟩
      let session := ((steady collection).override (filter.atPage page) first
        firstPerm firstSorted).override (filter.atPage (page + 1)) second
          secondPerm secondSorted
      have differs : filter.atPage page ≠ filter.atPage (page + 1) := by
        intro same
        have samePage : page + 1 = page + 1 + 1 := congrArg OrderListFilter.page same
        omega
      have listedFirst : session.listed (filter.atPage page) = first :=
        
        (listed_override_of_ne _ _ _ differs).trans (listed_override_self ..)
      have listedSecond : session.listed (filter.atPage (page + 1)) = second :=
        listed_override_self ..
      refine ⟨session, fun partitions => ?_⟩
      have nodup := partitions.nodup
      rw [documentsOnPages, List.map_flatMap, List.nodup_flatMap,
        List.pairwise_iff_getElem] at nodup
      have last := lt_pageCount filter.pageSize_pos within
      have apart := nodup.2 page (page + 1) (by simpa using (Nat.lt_succ_self page).trans last)
        (by simpa using last) (Nat.lt_succ_self _)
      simp only [List.getElem_range, Function.onFun, listedFirst, listedSecond]
        at apart
      exact apart (List.mem_map_of_mem onFirst) (List.mem_map_of_mem onSecond)

end MongoSession

/-- The pages partition the order list, however the database lists documents of
one date, exactly when every document the filter selects has its header and no
page boundary falls between two of one date. -/
theorem pages_partition_iff (collection : OrderCollection) (filter : OrderListFilter) :
    (∀ session : MongoSession collection, session.Partitions filter) ↔
      (∀ document ∈ collection.selected filter,
        document.headerComplete ∧ (toOrderSummary document).isSome) ∧
      ∀ boundary, ¬ Torn dateKey (boundary * filter.pageSize)
        (collection.selected filter) := by
  constructor
  · intro always
    constructor
    · exact (always (MongoSession.steady collection)).complete
    · intro boundary torn
      rcases MongoSession.exists_not_partitions_of_torn torn with ⟨session, fails⟩
      exact fails (always session)
  · rintro ⟨complete, whole⟩ session
    exact session.partitions_of_complete complete whole

/-- All orders, one a page. -/
def everyOrder : OrderListFilter :=
  { status := none
    retailerCode := none
    companyCode := none
    orderReference := none
    page := 1
    pageSize := 1
    page_pos := Nat.one_pos
    pageSize_pos := Nat.one_pos }

/-- The document of an order whose first fact was not its placement. -/
def onePlaceholder : OrderCollection :=
  ⟨[placeholderSkeleton ⟨1⟩ "2026-01-01T00:00:00.000Z"], by decide⟩

/-- The document of an order placed at a date. -/
def placedDocument (number : Nat) (orderDate : String) : OrderTimelineDocument :=
  { placeholderSkeleton ⟨number⟩ orderDate with
    orderReference := some ⟨number⟩
    orderDate := some orderDate
    retailer := ⟨some "CARREFOUR", none, some "8400000000017"⟩
    company := ⟨some "ACME", none, some "8400000000024"⟩
    currency := some "EUR"
    totals := ⟨some 100, some 0, some 100⟩
    headerComplete := true }

/-- Two complete orders of one instant. -/
def oneInstant : OrderCollection :=
  ⟨[placedDocument 1 "2026-01-01T00:00:00.000Z",
    placedDocument 2 "2026-01-01T00:00:00.000Z"], by decide⟩

/-- A placeholder is counted and not listed; two orders of one instant may leave
one of them out and list the other twice. -/
theorem pages_not_partition :
    (∀ session : MongoSession onePlaceholder, ¬ session.Partitions everyOrder) ∧
      ∃ session : MongoSession oneInstant, ¬ session.Partitions everyOrder := by
  constructor
  · intro session partitions
    have complete := partitions.complete (placeholderSkeleton ⟨1⟩
      "2026-01-01T00:00:00.000Z") (by decide)
    exact absurd complete.1 (by decide)
  · have torn : Torn dateKey (1 * everyOrder.pageSize)
        (oneInstant.selected everyOrder) := by decide +kernel
    exact MongoSession.exists_not_partitions_of_torn torn

end OrderToCash.Gateway
