import OrderToCash.Fulfillment.Handlers
import OrderToCash.Fulfillment.StockEffects

/-!
# Loads and write-backs of the Fulfillment tables

Over a well-keyed database, a locked load is the selected stock rows with the
order's reservations on them, and writing the changed items back changes
exactly those rows.
-/

namespace OrderToCash.Fulfillment

open OrderToCash.Checked
open OrderToCash.Contracts
open OrderToCash.Kernel
open OrderToCash.Table

namespace FulfillmentDb

/-- The unique and foreign keys of the tables. -/
structure WellKeyed (db : FulfillmentDb) : Prop where
  stockIds : (db.stock.map StockRow.id).Nodup
  stockKeys :
    (db.stock.map fun row => (row.companyCode, row.productCode)).Nodup
  reservationIds :
    (db.reservations.map fun row => row.reservation.id).Nodup
  generated : ∀ row ∈ db.reservations, row.reservation.id.value < db.nextId
  onStock : ∀ row ∈ db.reservations, ∃ stockRow ∈ db.stock,
    stockRow.id = row.stockId ∧
      stockRow.companyCode = row.reservation.companyCode ∧
      stockRow.productCode = row.reservation.productCode

/-! ## Loads -/

theorem reconstituteAll_eq_ok {items items' : List StockItem}
    (rebuilt : reconstituteAll items = .ok items')
    (noEvents : ∀ item ∈ items, item.domainEvents = []) : items' = items := by
  induction items generalizing items' with
  | nil =>
      cases rebuilt
      rfl
  | cons item rest inductionHypothesis =>
      simp only [reconstituteAll, StockItem.reconstitute, bind_eq_ok_iff,
        ite_error_eq_ok_iff, Except.ok.injEq] at rebuilt
      obtain ⟨_, ⟨_, _, rfl⟩, others, rebuiltOthers, rfl⟩ := rebuilt
      have noEventsHere := noEvents item List.mem_cons_self
      rw [inductionHypothesis rebuiltOthers fun other otherMem =>
        noEvents other (List.mem_cons_of_mem item otherMem)]
      simp [← noEventsHere]

/-- Items whose counters satisfy the stock invariant are rebuilt. -/
theorem reconstituteAll_isOk {items : List StockItem}
    (valid : ∀ item ∈ items,
      0 ≤ item.reservedUnits ∧ item.reservedUnits ≤ item.units) :
    ∃ items', reconstituteAll items = .ok items' := by
  induction items with
  | nil => exact ⟨_, rfl⟩
  | cons item rest inductionHypothesis =>
      obtain ⟨rest', rebuilt⟩ := inductionHypothesis fun other otherMem =>
        valid other (List.mem_cons_of_mem item otherMem)
      obtain ⟨nonneg, bounded⟩ := valid item List.mem_cons_self
      have counters : ¬ (item.units < 0 ∨ item.reservedUnits < 0) := by omega
      have within : ¬ item.reservedUnits > item.units := by omega
      exact ⟨_, by
        simp only [reconstituteAll, StockItem.reconstitute, if_neg counters,
          if_neg within, rebuilt]
        rfl⟩

/-- The selected stock rows, loaded with an order's reservations. -/
def loadRows (db : FulfillmentDb) (order : OrderNumber)
    (selected : StockRow → Bool) : List StockItem :=
  (db.stock.filter selected).map (db.loadItem order)

theorem domainEvents_loadRows (db : FulfillmentDb) (order : OrderNumber)
    (selected : StockRow → Bool) :
    ∀ item ∈ db.loadRows order selected, item.domainEvents = [] := by
  intro item loaded
  obtain ⟨row, _, rfl⟩ := List.mem_map.mp loaded
  rfl

/-- A load carries no fact, whatever its items' other fields are changed to. -/
theorem flatMap_domainEvents_loadRows (db : FulfillmentDb) (order : OrderNumber)
    (selected : StockRow → Bool) (change : StockItem → StockItem)
    (keepsEvents : ∀ item, (change item).domainEvents = item.domainEvents) :
    ((db.loadRows order selected).map change).flatMap StockItem.domainEvents =
      [] := by
  rw [List.flatMap_map, List.flatMap_eq_nil_iff]
  intro item itemMem
  rw [keepsEvents, domainEvents_loadRows db order selected item itemMem]

/-- The rows a reservation or a replenishment of some products locks. -/
def IsLockedFor (companyCode : String) (productCodes : List String)
    (row : StockRow) : Bool :=
  row.companyCode = companyCode ∧ row.productCode ∈ productCodes

/-- Stock rows of one company have different products. -/
theorem nodup_productCode_loadRows {db : FulfillmentDb} (keyed : db.WellKeyed)
    (order : OrderNumber) {selected : StockRow → Bool} (companyCode : String)
    (sameCompany : ∀ row ∈ db.stock, selected row = true →
      row.companyCode = companyCode) :
    ((db.loadRows order selected).map StockItem.productCode).Nodup := by
  have keys : ((db.stock.filter selected).map
      fun row => (row.companyCode, row.productCode)).Nodup :=
    (List.filter_sublist.map _).nodup keyed.stockKeys
  rw [loadRows, List.map_map]
  refine List.Nodup.of_map (fun productCode => (companyCode, productCode)) ?_
  rw [List.map_map]
  have same : (db.stock.filter selected).map
      ((fun productCode => (companyCode, productCode)) ∘
        StockItem.productCode ∘ db.loadItem order) =
      (db.stock.filter selected).map
        fun row => (row.companyCode, row.productCode) := by
    refine List.map_congr_left fun row rowMem => ?_
    obtain ⟨inStock, isSelected⟩ := List.mem_filter.mp rowMem
    simp [loadItem, sameCompany row inStock isSelected]
  rw [same]
  exact keys

theorem nodup_productCode_of_company {db : FulfillmentDb} (keyed : db.WellKeyed)
    (order : OrderNumber) (companyCode : String) (productCodes : List String) :
    ((db.loadRows order (IsLockedFor companyCode productCodes)).map
      StockItem.productCode).Nodup := by
  refine nodup_productCode_loadRows keyed order companyCode ?_
  intro row _ locked
  simp only [IsLockedFor, decide_eq_true_eq] at locked
  exact locked.1

/-- The locked load of an order's products. -/
theorem lockForOrder_eq_ok {db : FulfillmentDb} (keyed : db.WellKeyed)
    {companyCode : String} {productCodes : List String} {order : OrderNumber}
    {items : List StockItem}
    (locked : db.lockForOrder companyCode productCodes order = .ok items) :
    items = db.loadRows order (IsLockedFor companyCode productCodes) := by
  simp only [lockForOrder, bind_eq_ok_iff, Except.ok.injEq] at locked
  obtain ⟨loaded, rebuilt, rfl⟩ := locked
  rw [reconstituteAll_eq_ok rebuilt (domainEvents_loadRows db order
    (IsLockedFor companyCode productCodes))]
  exact upsertAll_nil_of_nodup
    (nodup_productCode_of_company keyed order companyCode productCodes)

/-- The locked load by identifiers, where no row was lost on the way. -/
theorem lockByIdsForOrder_eq_ok {db : FulfillmentDb} {ids : List UniqueId}
    {order : OrderNumber} {items : List StockItem} (keyed : db.WellKeyed)
    (locked : db.lockByIdsForOrder ids order = .ok items)
    (complete : items.length = ids.length) :
    items = db.loadRows order (·.id ∈ ids) ∧
      (items.map StockItem.productCode).Nodup := by
  simp only [lockByIdsForOrder, bind_eq_ok_iff, Except.ok.injEq] at locked
  obtain ⟨loaded, rebuilt, rfl⟩ := locked
  have same := reconstituteAll_eq_ok rebuilt
    (domainEvents_loadRows db order (·.id ∈ ids))
  subst same
  have fewer : (db.stock.filter (·.id ∈ ids)).length ≤ ids.length := by
    have nodup : ((db.stock.filter (·.id ∈ ids)).map StockRow.id).Nodup :=
      (List.filter_sublist.map _).nodup keyed.stockIds
    have subset : (db.stock.filter (·.id ∈ ids)).map StockRow.id ⊆ ids := by
      intro id idMem
      obtain ⟨row, rowMem, rfl⟩ := List.mem_map.mp idMem
      simpa using (List.mem_filter.mp rowMem).2
    simpa using (List.subperm_of_subset nodup subset).length_le
  have distinct : (((db.stock.filter (·.id ∈ ids)).map (db.loadItem order)).map
      StockItem.productCode).Nodup := by
    have lossless : ((db.stock.filter (·.id ∈ ids)).map (db.loadItem order)).length
        ≤ (toItemMap ((db.stock.filter (·.id ∈ ids)).map
          (db.loadItem order))).length := by
      rw [complete, List.length_map]
      exact fewer
    exact nodup_of_length_upsertAll_nil (fun _ _ same => same.symm) lossless
  have kept : toItemMap ((db.stock.filter (·.id ∈ ids)).map (db.loadItem order)) =
      (db.stock.filter (·.id ∈ ids)).map (db.loadItem order) :=
    upsertAll_nil_of_nodup distinct
  rw [kept]
  exact ⟨rfl, distinct⟩

/-! ## Write-backs -/

/-- Writing back the stock rows of a load changes exactly those rows. -/
theorem saved_stock {db : FulfillmentDb} (keyed : db.WellKeyed)
    (order : OrderNumber) (selected : StockRow → Bool)
    (change : StockItem → StockItem)
    (keepsId : ∀ item, (change item).id = item.id) :
    upsertAll StockRow.id mergeStockRow db.stock
        (((db.loadRows order selected).map change).map toStockRow) =
      db.stock.map fun row =>
        if selected row then
          mergeStockRow row (toStockRow (change (db.loadItem order row)))
        else row := by
  have keyMerge : ∀ existing row : StockRow, existing.id = row.id →
      (mergeStockRow existing row).id = existing.id :=
    fun _ _ _ => rfl
  have written := upsertAll_map_filter keyMerge keyed.stockIds
    (fun row => selected row = true)
    (fun row => toStockRow (change (db.loadItem order row)))
    (fun row => keepsId (db.loadItem order row))
  rw [loadRows, List.map_map, List.map_map]
  simp only [Bool.decide_eq_true] at written
  exact written

/-- Move the order's reserved reservation where it is on a selected stock row. -/
def settleRow (order : OrderNumber) (selected : UniqueId → Bool)
    (status : ReservationStatus) (row : ReservationRow) : ReservationRow :=
  if selected row.stockId then
    { row with reservation := row.reservation.moveTo order status }
  else row

theorem mergeReservationRow_moveTo (order : OrderNumber)
    (status : ReservationStatus) (row : ReservationRow) :
    mergeReservationRow row
        { row with reservation := row.reservation.moveTo order status } =
      { row with reservation := row.reservation.moveTo order status } := by
  unfold Reservation.moveTo
  split <;> rfl

/-- The reservations of an order on the rows of different identifiers, read row
by row. -/
theorem reservationsOf_flatMap_perm (db : FulfillmentDb) (order : OrderNumber)
    {ids : List UniqueId} (distinct : ids.Nodup) :
    (ids.flatMap fun id => (db.reservationsOf order).filter (·.stockId = id)).Perm
      ((db.reservationsOf order).filter (·.stockId ∈ ids)) :=
  flatMap_filter_perm ReservationRow.stockId (db.reservationsOf order) distinct

/-- The reservation rows written back after a load whose reservations were
moved. -/
theorem toReservationRows_moved {db : FulfillmentDb} {order : OrderNumber}
    {selected : StockRow → Bool} {change : StockItem → StockItem}
    {status : ReservationStatus}
    (keepsId : ∀ item, (change item).id = item.id)
    (moves : ∀ item, (change item).reservations =
      item.reservations.map (·.moveTo order status)) :
    ((db.loadRows order selected).map change).flatMap toReservationRows =
      (((db.stock.filter selected).map StockRow.id).flatMap fun id =>
        (db.reservationsOf order).filter (·.stockId = id)).map fun row =>
          { row with reservation := row.reservation.moveTo order status } := by
  rw [loadRows, List.map_flatMap, List.flatMap_map, List.flatMap_map,
    List.flatMap_map]
  refine List.flatMap_congr fun stockRow _ => ?_
  simp only [toReservationRows, moves, keepsId, loadItem, List.map_map]
  refine List.map_congr_left fun row rowMem => ?_
  have onRow : row.stockId = stockRow.id := by
    simpa using (List.mem_filter.mp rowMem).2
  simp [onRow]

/-- Writing back the moved reservations of a load moves the order's
reservations on the selected stock rows. -/
theorem saved_moved {db : FulfillmentDb} (keyed : db.WellKeyed)
    (order : OrderNumber) (selected : UniqueId → Bool)
    (change : StockItem → StockItem) (status : ReservationStatus)
    (keepsId : ∀ item, (change item).id = item.id)
    (moves : ∀ item, (change item).reservations =
      item.reservations.map (·.moveTo order status)) :
    upsertAll (fun row => row.reservation.id) mergeReservationRow db.reservations
        (((db.loadRows order fun row => selected row.id).map change).flatMap
          toReservationRows) =
      db.reservations.map (settleRow order selected status) := by
  rw [toReservationRows_moved keepsId moves]
  have keyMerge : ∀ existing row : ReservationRow,
      existing.reservation.id = row.reservation.id →
      (mergeReservationRow existing row).reservation.id =
        existing.reservation.id :=
    fun _ _ _ => rfl
  have keyMove : ∀ row : ReservationRow,
      (row.reservation.moveTo order status).id = row.reservation.id :=
    fun row => (Reservation.moveTo_fields order status row.reservation).1
  have distinctIds : ((db.stock.filter fun row => selected row.id).map
      StockRow.id).Nodup :=
    (List.filter_sublist.map _).nodup keyed.stockIds
  have perm := db.reservationsOf_flatMap_perm order distinctIds
  have memIds : ∀ row ∈ db.reservations,
      row.stockId ∈ (db.stock.filter fun row => selected row.id).map StockRow.id ↔
        selected row.stockId = true := by
    intro row rowMem
    constructor
    · intro idMem
      obtain ⟨stockRow, stockMem, same⟩ := List.mem_map.mp idMem
      rw [← same]
      exact (List.mem_filter.mp stockMem).2
    · intro isSelected
      obtain ⟨stockRow, stockMem, same, _⟩ := keyed.onStock row rowMem
      refine List.mem_map.mpr ⟨stockRow, List.mem_filter.mpr ⟨stockMem, ?_⟩, same⟩
      rw [same]
      exact isSelected
  have memRead : ∀ row, row ∈
      (((db.stock.filter fun row => selected row.id).map StockRow.id).flatMap
        fun id => (db.reservationsOf order).filter (·.stockId = id)) ↔
      row ∈ db.reservations ∧ row.IsOf order ∧ selected row.stockId = true := by
    intro row
    rw [perm.mem_iff, List.mem_filter, reservationsOf, List.mem_filter,
      decide_eq_true_eq, decide_eq_true_eq]
    constructor
    · rintro ⟨⟨rowMem, ofOrder⟩, idMem⟩
      exact ⟨rowMem, ofOrder, (memIds row rowMem).mp idMem⟩
    · rintro ⟨rowMem, ofOrder, isSelected⟩
      exact ⟨⟨rowMem, ofOrder⟩, (memIds row rowMem).mpr isSelected⟩
  rw [upsertAll_eq_map_of_selection keyMerge keyed.reservationIds
    (fun row => row.IsOf order ∧ selected row.stockId = true)
    (fun row => { row with reservation := row.reservation.moveTo order status })
    keyMove]
  · refine List.map_congr_left fun row _ => ?_
    rw [mergeReservationRow_moveTo, settleRow]
    by_cases isSelected : selected row.stockId = true
    · by_cases ofOrder : row.IsOf order
      · simp [isSelected, ofOrder]
      · have notReserved : row.reservation.IsReservedBy order = false := by
          rw [← Bool.not_eq_true, Reservation.isReservedBy_iff]
          exact fun reserved => ofOrder reserved.1
        simp [isSelected, ofOrder,
          Reservation.moveTo_of_not_isReservedBy status notReserved]
    · simp [isSelected]
  · rw [List.map_map]
    have keys : ((fun row : ReservationRow => row.reservation.id) ∘
        fun row : ReservationRow =>
          { row with reservation := row.reservation.moveTo order status }) =
        fun row => row.reservation.id :=
      funext keyMove
    rw [keys]
    refine (perm.map _).nodup_iff.mpr ?_
    have sublist : ((db.reservationsOf order).filter (·.stockId ∈
        (db.stock.filter fun row => selected row.id).map StockRow.id)).Sublist
          db.reservations :=
      List.filter_sublist.trans List.filter_sublist
    exact (sublist.map _).nodup keyed.reservationIds
  · intro row rowMem
    obtain ⟨before, beforeMem, rfl⟩ := List.mem_map.mp rowMem
    obtain ⟨stored, ofOrder, isSelected⟩ := (memRead before).mp beforeMem
    exact ⟨before, stored, ⟨ofOrder, isSelected⟩, rfl⟩
  · rintro row rowMem ⟨ofOrder, isSelected⟩
    exact List.mem_map.mpr
      ⟨row, (memRead row).mpr ⟨rowMem, ofOrder, isSelected⟩, rfl⟩

end FulfillmentDb

end OrderToCash.Fulfillment
