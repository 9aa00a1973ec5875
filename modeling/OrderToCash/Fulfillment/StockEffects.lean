import Mathlib.Data.List.Nodup
import OrderToCash.Fulfillment.OrderStock

/-!
# What the order-scoped stock operations do

Each operation over the loaded items is read back as a map over them: the lines
of a reservation put fresh reservations on the items of their products, and a
release or a consumption moves the order's reserved reservations and takes
their units off the counters.
-/

namespace OrderToCash.Fulfillment

universe u

open OrderToCash.Checked
open OrderToCash.Contracts
open OrderToCash.Kernel

/-! ## Reservations of one order -/

@[simp]
theorem unitsOf_nil : unitsOf [] = 0 := rfl

@[simp]
theorem unitsOf_cons (reservation : Reservation) (rest : List Reservation) :
    unitsOf (reservation :: rest) = reservation.units.value + unitsOf rest := by
  simp [unitsOf]

@[simp]
theorem unitsOf_append (first second : List Reservation) :
    unitsOf (first ++ second) = unitsOf first + unitsOf second := by
  simp [unitsOf]

theorem unitsOf_nonneg (reservations : List Reservation) :
    0 ≤ unitsOf reservations := by
  induction reservations with
  | nil => simp
  | cons reservation rest inductionHypothesis =>
      rw [unitsOf_cons]
      omega

theorem Reservation.isReservedBy_iff {order : OrderNumber}
    {reservation : Reservation} :
    reservation.IsReservedBy order = true ↔
      reservation.orderReference = order ∧ reservation.status = .reserved := by
  simp [Reservation.IsReservedBy]

theorem Reservation.moveTo_of_isReservedBy {order : OrderNumber}
    {reservation : Reservation} (status : ReservationStatus)
    (reserved : reservation.IsReservedBy order = true) :
    reservation.moveTo order status = { reservation with status := status } := by
  simp [Reservation.moveTo, reserved]

theorem Reservation.moveTo_of_not_isReservedBy {order : OrderNumber}
    {reservation : Reservation} (status : ReservationStatus)
    (notReserved : reservation.IsReservedBy order = false) :
    reservation.moveTo order status = reservation := by
  simp [Reservation.moveTo, notReserved]

/-- Moving a reservation changes its status and nothing else. -/
theorem Reservation.moveTo_fields (order : OrderNumber)
    (status : ReservationStatus) (reservation : Reservation) :
    (reservation.moveTo order status).id = reservation.id ∧
      (reservation.moveTo order status).orderReference =
        reservation.orderReference ∧
      (reservation.moveTo order status).companyCode = reservation.companyCode ∧
      (reservation.moveTo order status).productCode = reservation.productCode ∧
      (reservation.moveTo order status).units = reservation.units := by
  unfold Reservation.moveTo
  split <;> exact ⟨rfl, rfl, rfl, rfl, rfl⟩

namespace StockItem

/-- The order's reserved reservations on an item. -/
def reservedBy (order : OrderNumber) (item : StockItem) : List Reservation :=
  item.reservations.filter (·.IsReservedBy order)

/-- The item after a release of the order. -/
def afterRelease (order : OrderNumber) (item : StockItem) : StockItem :=
  { item with
    reservedUnits := item.reservedUnits - unitsOf (item.reservedBy order)
    reservations := item.reservations.map (·.moveTo order .released) }

/-- The item after a consumption by the order. -/
def afterConsume (order : OrderNumber) (item : StockItem) : StockItem :=
  { item with
    units := item.units - unitsOf (item.reservedBy order)
    reservedUnits := item.reservedUnits - unitsOf (item.reservedBy order)
    reservations := item.reservations.map (·.moveTo order .consumed) }

/-- No reservation of the order on the item has the status. -/
def HasNone (order : OrderNumber) (status : ReservationStatus)
    (item : StockItem) : Prop :=
  ∀ reservation ∈ item.reservations,
    reservation.orderReference = order → reservation.status ≠ status

theorem filter_matching_eq_reservedBy (order : OrderNumber) (item : StockItem) :
    (item.reservations.filter (·.orderReference = order)).filter
        (·.status = .reserved) =
      item.reservedBy order := by
  rw [List.filter_filter]
  refine List.filter_congr fun reservation _ => ?_
  simp [Reservation.IsReservedBy, Bool.and_comm]

theorem find_matching_eq_none_iff {order : OrderNumber}
    {status : ReservationStatus} {item : StockItem} :
    (item.reservations.filter (·.orderReference = order)).find?
        (·.status = status) = none ↔
      item.HasNone order status := by
  simp [HasNone, List.find?_eq_none]

/-- Where nothing of the order is reserved, moving its reservations does
nothing. -/
theorem map_moveTo_of_reservedBy_eq_nil {order : OrderNumber}
    {item : StockItem} (status : ReservationStatus)
    (nothing : item.reservedBy order = []) :
    item.reservations.map (·.moveTo order status) = item.reservations := by
  rw [reservedBy, List.filter_eq_nil_iff] at nothing
  have unchanged : ∀ reservation ∈ item.reservations,
      reservation.moveTo order status = reservation := by
    intro reservation reservationMem
    have notReserved := nothing reservation reservationMem
    exact Reservation.moveTo_of_not_isReservedBy status (by simpa using notReserved)
  rw [List.map_congr_left unchanged, List.map_id']

/-- A release that is not refused meets no consumed reservation of the order
and moves the reserved ones. -/
theorem release_eq_ok {order : OrderNumber} {item item' : StockItem}
    {released : List Reservation}
    (accepted : item.release order = .ok (item', released)) :
    item.HasNone order .consumed ∧ item' = item.afterRelease order ∧
      released = (item.reservedBy order).map (·.moveTo order .released) := by
  simp only [release, filter_matching_eq_reservedBy] at accepted
  split at accepted
  · cases accepted
  · rename_i noneConsumed
    refine ⟨find_matching_eq_none_iff.mp noneConsumed, ?_⟩
    split at accepted
    · rename_i nothing
      cases accepted
      constructor
      · rw [afterRelease, nothing, map_moveTo_of_reservedBy_eq_nil _ nothing]
        simp
      · rw [nothing, List.map_nil]
    · cases accepted
      exact ⟨rfl, rfl⟩

/-- A release is refused only for a consumed reservation of the order. -/
theorem release_isOk {order : OrderNumber} {item : StockItem}
    (noneConsumed : item.HasNone order .consumed) :
    ∃ result, item.release order = .ok result := by
  simp only [release, find_matching_eq_none_iff.mpr noneConsumed]
  split
  · exact ⟨_, rfl⟩
  · exact ⟨_, rfl⟩

/-- A consumption that is not refused meets no released reservation of the
order and moves the reserved ones. -/
theorem consume_eq_ok {order : OrderNumber} {item item' : StockItem}
    {consumed : List Reservation}
    (accepted : item.consume order = .ok (item', consumed)) :
    item.HasNone order .released ∧ item' = item.afterConsume order ∧
      consumed = (item.reservedBy order).map (·.moveTo order .consumed) := by
  simp only [consume, filter_matching_eq_reservedBy] at accepted
  split at accepted
  · cases accepted
  · rename_i noneReleased
    refine ⟨find_matching_eq_none_iff.mp noneReleased, ?_⟩
    split at accepted
    · rename_i nothing
      cases accepted
      constructor
      · rw [afterConsume, nothing, map_moveTo_of_reservedBy_eq_nil _ nothing]
        simp
      · rw [nothing, List.map_nil]
    · cases accepted
      exact ⟨rfl, rfl⟩

/-- A consumption is refused only for a released reservation of the order. -/
theorem consume_isOk {order : OrderNumber} {item : StockItem}
    (noneReleased : item.HasNone order .released) :
    ∃ result, item.consume order = .ok result := by
  simp only [consume, find_matching_eq_none_iff.mpr noneReleased]
  split
  · exact ⟨_, rfl⟩
  · exact ⟨_, rfl⟩

end StockItem

/-! ## Releases and consumptions over several items -/

/-- The order's reserved reservations over several items. -/
def reservedOver (order : OrderNumber) (items : List StockItem) :
    List Reservation :=
  items.flatMap (StockItem.reservedBy order)

theorem releaseItems_eq_ok {order : OrderNumber} {items items' : List StockItem}
    {released : List (StockItem × Reservation)}
    (accepted : releaseItems order items = .ok (items', released)) :
    (∀ item ∈ items, item.HasNone order .consumed) ∧
      items' = items.map (StockItem.afterRelease order) ∧
      released.map Prod.snd =
        (reservedOver order items).map (·.moveTo order .released) ∧
      ∀ entry ∈ released, entry.1 ∈ items' := by
  induction items generalizing items' released with
  | nil =>
      cases accepted
      simp [reservedOver]
  | cons item rest inductionHypothesis =>
      simp only [releaseItems, bind_eq_ok_iff, Except.ok.injEq,
        Prod.mk.injEq] at accepted
      obtain ⟨⟨first, releasedFirst⟩, firstReleased, ⟨others, releasedOthers⟩,
        othersReleased, rfl, rfl⟩ := accepted
      obtain ⟨noneConsumed, rfl, rfl⟩ := StockItem.release_eq_ok firstReleased
      obtain ⟨noneConsumedOthers, rfl, sameOthers, carriers⟩ :=
        inductionHypothesis othersReleased
      refine ⟨?_, rfl, ?_, ?_⟩
      · intro other otherMem
        rcases List.mem_cons.mp otherMem with rfl | inRest
        · exact noneConsumed
        · exact noneConsumedOthers other inRest
      · rw [List.map_append, sameOthers]
        simp [reservedOver, Function.comp_def]
      · intro entry entryMem
        rcases List.mem_append.mp entryMem with here | there
        · obtain ⟨reservation, _, rfl⟩ := List.mem_map.mp here
          exact List.mem_cons_self
        · exact List.mem_cons_of_mem _ (carriers entry there)

theorem releaseItems_isOk {order : OrderNumber} {items : List StockItem}
    (noneConsumed : ∀ item ∈ items, item.HasNone order .consumed) :
    ∃ result, releaseItems order items = .ok result := by
  induction items with
  | nil => exact ⟨_, rfl⟩
  | cons item rest inductionHypothesis =>
      obtain ⟨⟨first, releasedFirst⟩, firstReleased⟩ :=
        StockItem.release_isOk (noneConsumed item List.mem_cons_self)
      obtain ⟨⟨others, releasedOthers⟩, othersReleased⟩ :=
        inductionHypothesis fun other otherMem =>
          noneConsumed other (List.mem_cons_of_mem item otherMem)
      exact ⟨_, by simp only [releaseItems, firstReleased, othersReleased]; rfl⟩

theorem consumeItems_eq_ok {order : OrderNumber} {items items' : List StockItem}
    {consumed : List Reservation}
    (accepted : consumeItems order items = .ok (items', consumed)) :
    (∀ item ∈ items, item.HasNone order .released) ∧
      items' = items.map (StockItem.afterConsume order) ∧
      consumed = (reservedOver order items).map (·.moveTo order .consumed) := by
  induction items generalizing items' consumed with
  | nil =>
      cases accepted
      simp [reservedOver]
  | cons item rest inductionHypothesis =>
      simp only [consumeItems, bind_eq_ok_iff, Except.ok.injEq,
        Prod.mk.injEq] at accepted
      obtain ⟨⟨first, consumedFirst⟩, firstConsumed, ⟨others, consumedOthers⟩,
        othersConsumed, rfl, rfl⟩ := accepted
      obtain ⟨noneReleased, rfl, rfl⟩ := StockItem.consume_eq_ok firstConsumed
      obtain ⟨noneReleasedOthers, rfl, rfl⟩ := inductionHypothesis othersConsumed
      refine ⟨?_, rfl, ?_⟩
      · intro other otherMem
        rcases List.mem_cons.mp otherMem with rfl | inRest
        · exact noneReleased
        · exact noneReleasedOthers other inRest
      · simp [reservedOver]

theorem consumeItems_isOk {order : OrderNumber} {items : List StockItem}
    (noneReleased : ∀ item ∈ items, item.HasNone order .released) :
    ∃ result, consumeItems order items = .ok result := by
  induction items with
  | nil => exact ⟨_, rfl⟩
  | cons item rest inductionHypothesis =>
      obtain ⟨⟨first, consumedFirst⟩, firstConsumed⟩ :=
        StockItem.consume_isOk (noneReleased item List.mem_cons_self)
      obtain ⟨⟨others, consumedOthers⟩, othersConsumed⟩ :=
        inductionHypothesis fun other otherMem =>
          noneReleased other (List.mem_cons_of_mem item otherMem)
      exact ⟨_, by simp only [consumeItems, firstConsumed, othersConsumed]; rfl⟩

/-! ## The carried fact -/

/-- Recording a fact on the carrier's item changes pending facts only. -/
theorem recordOnCarrier_fields {α : Type u} (items : List StockItem) (carrier : StockItem)
    (fact : Fact) (field : StockItem → α)
    (ignores : ∀ item, field (item.recordOrderFact fact) = field item) :
    (recordOnCarrier items carrier fact).map field = items.map field := by
  rw [recordOnCarrier, List.map_map]
  refine List.map_congr_left fun item _ => ?_
  simp only [Function.comp_apply]
  split
  · exact ignores item
  · rfl

/-- Among items of different products without pending facts, exactly the
carrier's has the fact. -/
theorem flatMap_domainEvents_recordOnCarrier {items : List StockItem}
    {carrier : StockItem} {fact : Fact}
    (distinct : (items.map StockItem.productCode).Nodup)
    (noEvents : ∀ item ∈ items, item.domainEvents = [])
    (carrierMem : carrier.productCode ∈ items.map StockItem.productCode) :
    (recordOnCarrier items carrier fact).flatMap StockItem.domainEvents =
      [fact] := by
  induction items with
  | nil => cases carrierMem
  | cons item rest inductionHypothesis =>
      rw [List.map_cons, List.nodup_cons] at distinct
      have noEventsHere := noEvents item List.mem_cons_self
      have noEventsRest : ∀ other ∈ rest, other.domainEvents = [] :=
        fun other otherMem => noEvents other (List.mem_cons_of_mem item otherMem)
      by_cases here : item.productCode = carrier.productCode
      · have others : recordOnCarrier rest carrier fact = rest := by
          have unchanged : ∀ other ∈ rest,
              (if other.productCode = carrier.productCode then
                other.recordOrderFact fact else other) = other := by
            intro other otherMem
            have differs : other.productCode ≠ carrier.productCode := by
              intro same
              exact distinct.1 (here ▸ same ▸ List.mem_map_of_mem otherMem)
            exact if_neg differs
          rw [recordOnCarrier, List.map_congr_left unchanged, List.map_id']
        have cons : recordOnCarrier (item :: rest) carrier fact =
            item.recordOrderFact fact :: recordOnCarrier rest carrier fact := by
          simp [recordOnCarrier, here]
        rw [cons, others, List.flatMap_cons]
        have noneAfter : rest.flatMap StockItem.domainEvents = [] := by
          rw [List.flatMap_eq_nil_iff]
          exact noEventsRest
        simp [noneAfter, StockItem.recordOrderFact, noEventsHere]
      · have carrierInRest :
            carrier.productCode ∈ rest.map StockItem.productCode := by
          rcases List.mem_cons.mp carrierMem with same | inRest
          · exact absurd same.symm here
          · exact inRest
        have cons : recordOnCarrier (item :: rest) carrier fact =
            item :: recordOnCarrier rest carrier fact := by
          simp [recordOnCarrier, here]
        rw [cons, List.flatMap_cons, noEventsHere, List.nil_append]
        exact inductionHypothesis distinct.2 noEventsRest carrierInRest

/-! ## Reservations of lines -/

section Reserve

variable (order : OrderNumber) (retailerCode : String) (newId : Nat → UniqueId)

/-- The reservations the lines, from an index on, put on an item. -/
def freshFor : Nat → List StockReserveLine → StockItem → List Reservation
  | _, [], _ => []
  | index, line :: rest, item =>
      if item.productCode = line.productCode then
        { id := newId index
          orderReference := order
          companyCode := item.companyCode
          retailerCode := retailerCode
          productCode := item.productCode
          units := line.units
          status := .reserved } :: freshFor (index + 1) rest item
      else
        freshFor (index + 1) rest item

/-- What the reservation of the lines reports, one reference a line. -/
def referencesFor : Nat → List StockReserveLine → List ReservationRef
  | _, [] => []
  | index, line :: rest =>
      ⟨newId index, line.productCode, line.units⟩ ::
        referencesFor (index + 1) rest

/-- The item with the lines' reservations on it. -/
def StockItem.afterReserve (index : Nat) (lines : List StockReserveLine)
    (item : StockItem) : StockItem :=
  { item with
    reservedUnits := item.reservedUnits +
      unitsOf (freshFor order retailerCode newId index lines item)
    reservations := item.reservations ++
      freshFor order retailerCode newId index lines item }

variable {order retailerCode newId}

/-- Which reservations the lines put on an item depends on its company and its
product only. -/
theorem freshFor_congr {item other : StockItem}
    (sameCompany : other.companyCode = item.companyCode)
    (sameProduct : other.productCode = item.productCode) (index : Nat)
    (lines : List StockReserveLine) :
    freshFor order retailerCode newId index lines other =
      freshFor order retailerCode newId index lines item := by
  induction lines generalizing index with
  | nil => rfl
  | cons line rest inductionHypothesis =>
      simp only [freshFor, sameCompany, sameProduct,
        inductionHypothesis (index + 1)]

/-- Every fresh reservation is the order's, reserved, on the item, for one of
the lines, under an identifier generated for it. -/
theorem mem_freshFor {index : Nat} {lines : List StockReserveLine}
    {item : StockItem} {reservation : Reservation}
    (fresh : reservation ∈ freshFor order retailerCode newId index lines item) :
    reservation.orderReference = order ∧ reservation.status = .reserved ∧
      reservation.companyCode = item.companyCode ∧
      reservation.productCode = item.productCode ∧
      item.productCode ∈ lines.map StockReserveLine.productCode ∧
      ∃ offset < lines.length, reservation.id = newId (index + offset) := by
  induction lines generalizing index with
  | nil => cases fresh
  | cons line rest inductionHypothesis =>
      have ofRest : reservation ∈
          freshFor order retailerCode newId (index + 1) rest item →
          reservation.orderReference = order ∧ reservation.status = .reserved ∧
            reservation.companyCode = item.companyCode ∧
            reservation.productCode = item.productCode ∧
            item.productCode ∈
              (line :: rest).map StockReserveLine.productCode ∧
            ∃ offset < (line :: rest).length,
              reservation.id = newId (index + offset) := by
        intro inRest
        obtain ⟨ofOrder, reserved, company, product, inLines, offset, bound, id⟩ :=
          inductionHypothesis inRest
        refine ⟨ofOrder, reserved, company, product,
          List.mem_cons_of_mem _ inLines, offset + 1, Nat.succ_lt_succ bound, ?_⟩
        rw [id, Nat.add_right_comm, Nat.add_assoc]
      by_cases here : item.productCode = line.productCode
      · rw [freshFor, if_pos here] at fresh
        rcases List.mem_cons.mp fresh with rfl | inRest
        · exact ⟨rfl, rfl, rfl, rfl, by simp [here], 0, by simp, rfl⟩
        · exact ofRest inRest
      · rw [freshFor, if_neg here] at fresh
        exact ofRest fresh

/-- The lines of a product put a reservation on its item. -/
theorem freshFor_ne_nil {index : Nat} {lines : List StockReserveLine}
    {item : StockItem}
    (requested : item.productCode ∈ lines.map StockReserveLine.productCode) :
    freshFor order retailerCode newId index lines item ≠ [] := by
  induction lines generalizing index with
  | nil => cases requested
  | cons line rest inductionHypothesis =>
      by_cases here : item.productCode = line.productCode
      · simp [freshFor, here]
      · rw [freshFor, if_neg here]
        refine inductionHypothesis ?_
        rcases List.mem_cons.mp requested with same | inRest
        · exact absurd same here
        · exact inRest

/-- The fresh reservations of an item have different identifiers. -/
theorem nodup_freshFor {index : Nat} {lines : List StockReserveLine}
    {item : StockItem} (injective : Function.Injective newId) :
    ((freshFor order retailerCode newId index lines item).map
      Reservation.id).Nodup := by
  induction lines generalizing index with
  | nil => exact List.nodup_nil
  | cons line rest inductionHypothesis =>
      by_cases here : item.productCode = line.productCode
      · rw [freshFor, if_pos here, List.map_cons, List.nodup_cons]
        refine ⟨fun again => ?_, inductionHypothesis⟩
        obtain ⟨reservation, fresh, same⟩ := List.mem_map.mp again
        obtain ⟨_, _, _, _, _, offset, _, id⟩ := mem_freshFor fresh
        have clash := injective (same.symm.trans id)
        omega
      · rw [freshFor, if_neg here]
        exact inductionHypothesis

/-- Fresh reservations of two items of different products have different
identifiers: each identifier belongs to one line. -/
theorem productCode_of_mem_freshFor {index : Nat}
    {lines : List StockReserveLine} {first second : StockItem}
    {one other : Reservation} (injective : Function.Injective newId)
    (freshFirst : one ∈ freshFor order retailerCode newId index lines first)
    (freshSecond : other ∈ freshFor order retailerCode newId index lines second)
    (sameId : one.id = other.id) : first.productCode = second.productCode := by
  induction lines generalizing index with
  | nil => cases freshFirst
  | cons line rest inductionHypothesis =>
      have later : ∀ {item : StockItem} {reservation : Reservation},
          reservation ∈ freshFor order retailerCode newId (index + 1) rest item →
          reservation.id ≠ newId index := by
        intro item reservation inRest same
        obtain ⟨_, _, _, _, _, offset, _, id⟩ := mem_freshFor inRest
        have clash := injective (same.symm.trans id)
        omega
      have split : ∀ {item : StockItem} {reservation : Reservation},
          reservation ∈
            freshFor order retailerCode newId index (line :: rest) item →
          (item.productCode = line.productCode ∧ reservation.id = newId index) ∨
            reservation ∈
              freshFor order retailerCode newId (index + 1) rest item := by
        intro item reservation fresh
        by_cases here : item.productCode = line.productCode
        · rw [freshFor, if_pos here] at fresh
          rcases List.mem_cons.mp fresh with rfl | inRest
          · exact Or.inl ⟨here, rfl⟩
          · exact Or.inr inRest
        · rw [freshFor, if_neg here] at fresh
          exact Or.inr fresh
      rcases split freshFirst with ⟨hereFirst, idFirst⟩ | restFirst
      · rcases split freshSecond with ⟨hereSecond, _⟩ | restSecond
        · rw [hereFirst, hereSecond]
        · exact absurd (sameId ▸ idFirst) (later restSecond)
      · rcases split freshSecond with ⟨_, idSecond⟩ | restSecond
        · exact absurd (sameId.trans idSecond) (later restFirst)
        · exact inductionHypothesis restFirst restSecond

/-- Reserving a line and then the rest reserves them all. -/
theorem StockItem.afterReserve_cons (index : Nat) (line : StockReserveLine)
    (rest : List StockReserveLine) (item : StockItem) :
    item.afterReserve order retailerCode newId index (line :: rest) =
      (item.afterReserve order retailerCode newId index [line]).afterReserve
        order retailerCode newId (index + 1) rest := by
  have append : freshFor order retailerCode newId index (line :: rest) item =
      freshFor order retailerCode newId index [line] item ++
        freshFor order retailerCode newId (index + 1) rest item := by
    simp only [freshFor]
    split <;> rfl
  have congr : freshFor order retailerCode newId (index + 1) rest
      (item.afterReserve order retailerCode newId index [line]) =
        freshFor order retailerCode newId (index + 1) rest item :=
    freshFor_congr (by rfl) (by rfl) (index + 1) rest
  simp only [StockItem.afterReserve] at congr ⊢
  rw [congr, append, unitsOf_append, List.append_assoc, Int.add_assoc]

theorem itemOf_eq_some {items : List StockItem} {productCode : String}
    {item : StockItem} (found : itemOf items productCode = some item) :
    item ∈ items ∧ item.productCode = productCode := by
  unfold itemOf at found
  exact ⟨List.mem_of_find?_eq_some found, by
    simpa using List.find?_some found⟩

/-- Lines that are all reserved put their fresh reservations on the items. -/
theorem reserveLines_eq_ok {index : Nat} {items items' : List StockItem}
    {lines : List StockReserveLine} {references : List ReservationRef}
    (distinct : (items.map StockItem.productCode).Nodup)
    (accepted : reserveLines order retailerCode newId index items lines =
      .ok (items', references)) :
    items' = items.map
        (StockItem.afterReserve order retailerCode newId index lines) ∧
      references = referencesFor newId index lines := by
  induction lines generalizing index items items' references with
  | nil =>
      cases accepted
      refine ⟨?_, rfl⟩
      have unchanged : ∀ item ∈ items,
          StockItem.afterReserve order retailerCode newId index [] item = item := by
        intro item _
        simp [StockItem.afterReserve, freshFor]
      rw [List.map_congr_left unchanged, List.map_id']
  | cons line rest inductionHypothesis =>
      simp only [reserveLines] at accepted
      cases found : itemOf items line.productCode with
      | none => simp [found] at accepted
      | some item =>
          obtain ⟨itemMem, product⟩ := itemOf_eq_some found
          simp only [found, bind_eq_ok_iff] at accepted
          obtain ⟨⟨item', reservation⟩, reserved, ⟨others, referencesOthers⟩,
            reservedOthers, ended⟩ := accepted
          unfold StockItem.reserve at reserved
          rw [ite_error_eq_ok_iff] at reserved
          obtain ⟨_, made⟩ := reserved
          simp only [Except.ok.injEq, Prod.mk.injEq] at made
          obtain ⟨rfl, rfl⟩ := made
          have replaced : ∀ other ∈ items,
              (if other.productCode = item.productCode then
                { item with
                  reservedUnits := item.reservedUnits + line.units.value
                  reservations := item.reservations ++
                    [{ id := newId index
                       orderReference := order
                       companyCode := item.companyCode
                       retailerCode := retailerCode
                       productCode := item.productCode
                       units := line.units
                       status := .reserved }] }
              else other) =
                StockItem.afterReserve order retailerCode newId index [line]
                  other := by
            intro other otherMem
            by_cases same : other.productCode = item.productCode
            · have sameItem : other = item :=
                List.inj_on_of_nodup_map distinct otherMem itemMem same
              subst sameItem
              simp [StockItem.afterReserve, freshFor, product]
            · have differs : other.productCode ≠ line.productCode := by
                rw [← product]
                exact same
              simp [StockItem.afterReserve, freshFor, same, differs]
          have products : ((items.map
              (StockItem.afterReserve order retailerCode newId index [line])).map
                StockItem.productCode).Nodup := by
            rw [List.map_map]
            exact distinct
          rw [replaceItem, List.map_congr_left replaced] at reservedOthers
          obtain ⟨rfl, rfl⟩ := inductionHypothesis products reservedOthers
          simp only [Except.ok.injEq, Prod.mk.injEq] at ended
          obtain ⟨rfl, rfl⟩ := ended
          refine ⟨?_, by simp [referencesFor, product]⟩
          rw [List.map_map]
          refine List.map_congr_left fun other _ => ?_
          exact (StockItem.afterReserve_cons index line rest other).symm

/-- The outcomes of an order's reservation that write something, each with the
one fact it records on a carrier among the items. -/
inductive ReserveOrderEffect (items : List StockItem)
    (request : StockReserveRequest) (newId : Nat → UniqueId) :
    ReserveOrderOutcome → Prop
  | withoutCarrier
      (unknown : ∀ line ∈ request.lines, itemOf items line.productCode = none) :
      ReserveOrderEffect items request newId .withoutCarrier
  | rejected (carrier : StockItem) (payload : StockRejectedPayload)
      (carrierMem : carrier ∈ items)
      (short : shortagesOf items request.lines ≠ [])
      (ofOrder : payload.orderReference = request.orderReference) :
      ReserveOrderEffect items request newId
        (.rejected (recordOnCarrier items carrier (.stockRejected payload))
          (shortagesOf items request.lines))
  | reserved (carrier : StockItem) (payload : StockReservedPayload)
      (carrierMem : carrier ∈ items)
      (requested : carrier.productCode ∈
        request.lines.map StockReserveLine.productCode)
      (served : shortagesOf items request.lines = [])
      (ofOrder : payload.orderReference = request.orderReference) :
      ReserveOrderEffect items request newId
        (.reserved
          (recordOnCarrier
            (items.map (StockItem.afterReserve request.orderReference
              request.retailerCode newId 0 request.lines))
            carrier (.stockReserved payload))
          (referencesFor newId 0 request.lines))

theorem reserveOrderStock_effect {items : List StockItem}
    {request : StockReserveRequest} {outcome : ReserveOrderOutcome}
    (distinct : (items.map StockItem.productCode).Nodup)
    (accepted : reserveOrderStock items request newId = .ok outcome) :
    ReserveOrderEffect items request newId outcome := by
  have unknownOf : (request.lines.findSome? fun line =>
      itemOf items line.productCode) = none →
      ∀ line ∈ request.lines, itemOf items line.productCode = none :=
    fun none => List.findSome?_eq_none_iff.mp none
  have knownOf : ∀ carrier, (request.lines.findSome? fun line =>
      itemOf items line.productCode) = some carrier →
      carrier ∈ items ∧ carrier.productCode ∈
        request.lines.map StockReserveLine.productCode := by
    intro carrier found
    obtain ⟨line, lineMem, foundItem⟩ := List.exists_of_findSome?_eq_some found
    obtain ⟨carrierMem, product⟩ := itemOf_eq_some foundItem
    exact ⟨carrierMem, product ▸ List.mem_map_of_mem lineMem⟩
  simp only [reserveOrderStock] at accepted
  split at accepted
  · rename_i short
    split at accepted
    · rename_i none
      cases accepted
      exact .withoutCarrier (unknownOf none)
    · rename_i carrier found
      cases accepted
      exact .rejected carrier _ (knownOf carrier found).1 short rfl
  · rename_i served
    split at accepted
    · rename_i none
      cases accepted
      exact .withoutCarrier (unknownOf none)
    · rename_i carrier found
      simp only [bind_eq_ok_iff, Except.ok.injEq] at accepted
      obtain ⟨⟨items', references⟩, reserved, rfl⟩ := accepted
      obtain ⟨rfl, rfl⟩ := reserveLines_eq_ok distinct reserved
      obtain ⟨carrierMem, requested⟩ := knownOf carrier found
      exact .reserved carrier _ carrierMem requested (not_not.mp served) rfl

end Reserve

/-! ## Releases and despatches of an order -/

/-- What a release that is not refused does: nothing where nothing is reserved,
or else it moves the reserved reservations and records one fact. -/
theorem releaseOrderStock_effect {items : List StockItem} {order : OrderNumber}
    {companyCode : String} {reason : StockReleaseReason}
    {outcome : ReleaseOrderOutcome}
    (accepted : releaseOrderStock items order companyCode reason = .ok outcome) :
    (∀ item ∈ items, item.HasNone order .consumed) ∧
      ((reservedOver order items = [] ∧ outcome = .alreadyReleased) ∨
        ∃ carrier payload, reservedOver order items ≠ [] ∧
          carrier ∈ items.map (StockItem.afterRelease order) ∧
          payload.orderReference = order ∧ payload.reason = reason ∧
          outcome = .released
            (recordOnCarrier (items.map (StockItem.afterRelease order)) carrier
              (.stockReleased payload))
            payload.released) := by
  simp only [releaseOrderStock, bind_eq_ok_iff] at accepted
  obtain ⟨⟨items', released⟩, releasedItems, accepted⟩ := accepted
  obtain ⟨noneConsumed, rfl, same, carriers⟩ := releaseItems_eq_ok releasedItems
  refine ⟨noneConsumed, ?_⟩
  cases released with
  | nil =>
      cases accepted
      have nothing : reservedOver order items = [] := by
        simpa using same.symm
      exact Or.inl ⟨nothing, rfl⟩
  | cons entry rest =>
      obtain ⟨carrier, first⟩ := entry
      simp only [Except.ok.injEq] at accepted
      have something : reservedOver order items ≠ [] := by
        intro nothing
        simp [nothing] at same
      exact Or.inr ⟨carrier, _, something, carriers _ List.mem_cons_self, rfl,
        rfl, accepted.symm⟩

/-- A release is refused only for a consumed reservation of the order. -/
theorem releaseOrderStock_isOk {items : List StockItem} {order : OrderNumber}
    (companyCode : String) (reason : StockReleaseReason)
    (noneConsumed : ∀ item ∈ items, item.HasNone order .consumed) :
    ∃ outcome, releaseOrderStock items order companyCode reason = .ok outcome := by
  obtain ⟨⟨items', released⟩, releasedItems⟩ := releaseItems_isOk noneConsumed
  cases released with
  | nil => exact ⟨_, by simp only [releaseOrderStock, releasedItems]; rfl⟩
  | cons entry rest => exact ⟨_, by simp only [releaseOrderStock, releasedItems]; rfl⟩

/-- The lines a despatch of the items' reserved reservations has. -/
def despatchLinesOf (order : OrderNumber) (items : List StockItem) :
    List DespatchLine :=
  (reservedOver order items).map fun reservation =>
    ⟨reservation.productCode, reservation.units⟩

/-- What a despatch that is not refused does: nothing where nothing is
reserved, or else it consumes the reserved reservations and creates the advice
with its one fact. -/
theorem createDespatchForOrder_effect {items : List StockItem}
    {order : OrderNumber} {companyCode retailerCode : String}
    {despatchReference : Nat} {despatchId : UniqueId}
    {outcome : CreateDespatchOutcome}
    (accepted : createDespatchForOrder items order companyCode retailerCode
      despatchReference despatchId = .ok outcome) :
    (∀ item ∈ items, item.HasNone order .released) ∧
      ((reservedOver order items = [] ∧ outcome = .noReservations) ∨
        ∃ despatch payload, reservedOver order items ≠ [] ∧
          despatch.orderReference = order ∧
          despatch.lines = despatchLinesOf order items ∧
          despatch.domainEvents = [.orderDespatched payload] ∧
          payload.orderReference = order ∧
          outcome = .created (items.map (StockItem.afterConsume order))
            despatch) := by
  simp only [createDespatchForOrder, bind_eq_ok_iff] at accepted
  obtain ⟨⟨items', consumed⟩, consumedItems, accepted⟩ := accepted
  obtain ⟨noneReleased, rfl, rfl⟩ := consumeItems_eq_ok consumedItems
  refine ⟨noneReleased, ?_⟩
  have lines : ((reservedOver order items).map (·.moveTo order .consumed)).map
      (fun reservation =>
        (⟨reservation.productCode, reservation.units⟩ : DespatchLine)) =
      despatchLinesOf order items := by
    rw [List.map_map, despatchLinesOf]
    refine List.map_congr_left fun reservation _ => ?_
    have fields := Reservation.moveTo_fields order .consumed reservation
    simp [fields]
  simp only [lines] at accepted
  split at accepted
  · rename_i empty
    cases accepted
    exact Or.inl ⟨by simpa [despatchLinesOf] using empty, rfl⟩
  · rename_i notEmpty
    rw [DespatchAdvice.create, if_neg notEmpty] at accepted
    cases accepted
    have something : reservedOver order items ≠ [] := by
      intro nothing
      simp [despatchLinesOf, nothing] at notEmpty
    exact Or.inr ⟨_, _, something, rfl, rfl, rfl, rfl, rfl⟩

/-- A despatch of something reserved is refused only for a released
reservation. -/
theorem createDespatchForOrder_isOk {items : List StockItem} {order : OrderNumber}
    (companyCode retailerCode : String) (despatchReference : Nat)
    (despatchId : UniqueId)
    (noneReleased : ∀ item ∈ items, item.HasNone order .released)
    (something : reservedOver order items ≠ []) :
    ∃ despatch, despatch.orderReference = order ∧
      createDespatchForOrder items order companyCode retailerCode
          despatchReference despatchId =
        .ok (.created (items.map (StockItem.afterConsume order)) despatch) := by
  obtain ⟨⟨items', consumed⟩, consumedItems⟩ := consumeItems_isOk noneReleased
  obtain ⟨_, rfl, rfl⟩ := consumeItems_eq_ok consumedItems
  have notEmpty : ((reservedOver order items).map (·.moveTo order .consumed)).map
      (fun reservation =>
        (⟨reservation.productCode, reservation.units⟩ : DespatchLine)) ≠ [] := by
    simpa using something
  simp only [createDespatchForOrder, consumedItems, bind, Except.bind,
    if_neg notEmpty, DespatchAdvice.create]
  exact ⟨_, rfl, rfl⟩

end OrderToCash.Fulfillment
