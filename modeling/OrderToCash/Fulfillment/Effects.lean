import OrderToCash.Fulfillment.WriteBack

/-!
# What the Fulfillment transactions do to the database

Each handler that is not refused is one of a few updates of the tables; the
updates are functions of the database, and the inversion of a handler says
which of them it made and what it found.
-/

namespace OrderToCash.Fulfillment

open OrderToCash.Checked
open OrderToCash.Contracts
open OrderToCash.Kernel
open OrderToCash.Table

namespace FulfillmentDb

/-! ## The updates -/

/-- The order's reserved reservations on a stock row. -/
def reservedOn (db : FulfillmentDb) (order : OrderNumber) (row : StockRow) :
    List Reservation :=
  (db.loadItem order row).reservedBy order

/-- The reservations a request's lines put on a stock row. -/
def freshOn (db : FulfillmentDb) (request : StockReserveRequest)
    (row : StockRow) : List Reservation :=
  freshFor request.orderReference request.retailerCode db.newId 0 request.lines
    (db.loadItem request.orderReference row)

/-- The stock rows a reservation request locks. -/
def isLockedBy (request : StockReserveRequest) : StockRow → Bool :=
  IsLockedFor request.companyCode
    (request.lines.map StockReserveLine.productCode)

/-- The reservation rows a request's lines create. -/
def freshRows (db : FulfillmentDb) (request : StockReserveRequest) :
    List ReservationRow :=
  (db.stock.filter (isLockedBy request)).flatMap fun row =>
    (db.freshOn request row).map fun reservation => ⟨row.id, reservation⟩

/-- The database after a fact is recorded. -/
def recorded (db : FulfillmentDb) (fact : Fact) : FulfillmentDb :=
  { db with outbox := db.outbox ++ [fact] }

/-- The database after a request's lines are reserved. -/
def afterReserve (db : FulfillmentDb) (request : StockReserveRequest) :
    FulfillmentDb :=
  { db with
    stock := db.stock.map fun row =>
      if isLockedBy request row then
        { row with
          reservedUnits := row.reservedUnits + unitsOf (db.freshOn request row) }
      else row
    reservations := db.reservations ++ db.freshRows request
    nextId := db.nextId + request.lines.length }

/-- The database after an order's reservations on some stock rows are
released. -/
def afterRelease (db : FulfillmentDb) (order : OrderNumber)
    (ids : List UniqueId) : FulfillmentDb :=
  { db with
    stock := db.stock.map fun row =>
      if row.id ∈ ids then
        { row with
          reservedUnits := row.reservedUnits - unitsOf (db.reservedOn order row) }
      else row
    reservations :=
      db.reservations.map (settleRow order (· ∈ ids) .released) }

/-- The database after an order's reservations on some stock rows are
consumed. -/
def afterConsume (db : FulfillmentDb) (order : OrderNumber)
    (ids : List UniqueId) : FulfillmentDb :=
  { db with
    stock := db.stock.map fun row =>
      if row.id ∈ ids then
        { row with
          units := row.units - unitsOf (db.reservedOn order row)
          reservedUnits := row.reservedUnits - unitsOf (db.reservedOn order row) }
      else row
    reservations :=
      db.reservations.map (settleRow order (· ∈ ids) .consumed) }

/-- Saving a load on which a fact was recorded saves it and records the fact. -/
theorem saveAll_recordOnCarrier {db : FulfillmentDb} {items : List StockItem}
    {carrier : StockItem} {fact : Fact}
    (distinct : (items.map StockItem.productCode).Nodup)
    (noEvents : ∀ item ∈ items, item.domainEvents = [])
    (carrierMem : carrier.productCode ∈ items.map StockItem.productCode) :
    db.saveAll (recordOnCarrier items carrier fact) =
      (db.saveAll items).recorded fact := by
  have rows : (recordOnCarrier items carrier fact).map toStockRow =
      items.map toStockRow :=
    recordOnCarrier_fields items carrier fact toStockRow fun _ => rfl
  have reservations : (recordOnCarrier items carrier fact).map toReservationRows =
      items.map toReservationRows :=
    recordOnCarrier_fields items carrier fact toReservationRows fun _ => rfl
  have noneBefore : items.flatMap StockItem.domainEvents = [] := by
    rw [List.flatMap_eq_nil_iff]
    exact noEvents
  have sameRows : (recordOnCarrier items carrier fact).flatMap toReservationRows =
      items.flatMap toReservationRows := by
    rw [List.flatMap_def, List.flatMap_def, reservations]
  simp only [saveAll, recorded, rows, sameRows, noneBefore, List.append_nil,
    flatMap_domainEvents_recordOnCarrier distinct noEvents carrierMem]

/-- Saving a load without reservations leaves the tables as they are. -/
theorem saveAll_loadRows {db : FulfillmentDb} (keyed : db.WellKeyed)
    {order : OrderNumber} {selected : StockRow → Bool}
    (noReservations : ∀ item ∈ db.loadRows order selected,
      item.reservations = []) :
    db.saveAll (db.loadRows order selected) = db := by
  have stock := saved_stock keyed order selected id fun _ => rfl
  have unchanged : ∀ row ∈ db.stock,
      (if selected row then
        mergeStockRow row (toStockRow (id (db.loadItem order row))) else row) =
        row := by
    intro row _
    split <;> rfl
  rw [List.map_id, List.map_congr_left unchanged, List.map_id'] at stock
  have reservations : (db.loadRows order selected).flatMap toReservationRows =
      [] := by
    rw [List.flatMap_eq_nil_iff]
    intro item itemMem
    rw [toReservationRows, noReservations item itemMem, List.map_nil]
  have outbox := db.flatMap_domainEvents_loadRows order selected id
    fun _ => rfl
  rw [List.map_id] at outbox
  simp only [saveAll, stock, reservations, outbox, List.append_nil, upsertAll]

/-- Saving a released load releases the order on its stock rows. -/
theorem saveAll_afterRelease {db : FulfillmentDb} (keyed : db.WellKeyed)
    (order : OrderNumber) (ids : List UniqueId) :
    db.saveAll ((db.loadRows order (·.id ∈ ids)).map
      (StockItem.afterRelease order)) = db.afterRelease order ids := by
  have stock := saved_stock keyed order (·.id ∈ ids)
    (StockItem.afterRelease order) fun _ => rfl
  have reservations := saved_moved keyed order (· ∈ ids)
    (StockItem.afterRelease order) .released (fun _ => rfl) fun _ => rfl
  have outbox := db.flatMap_domainEvents_loadRows order (·.id ∈ ids)
    (StockItem.afterRelease order) fun _ => rfl
  simp only [saveAll, stock, reservations, outbox, List.append_nil,
    decide_eq_true_eq]
  rfl

/-- Saving a consumed load consumes the order on its stock rows. -/
theorem saveAll_afterConsume {db : FulfillmentDb} (keyed : db.WellKeyed)
    (order : OrderNumber) (ids : List UniqueId) :
    db.saveAll ((db.loadRows order (·.id ∈ ids)).map
      (StockItem.afterConsume order)) = db.afterConsume order ids := by
  have stock := saved_stock keyed order (·.id ∈ ids)
    (StockItem.afterConsume order) fun _ => rfl
  have reservations := saved_moved keyed order (· ∈ ids)
    (StockItem.afterConsume order) .consumed (fun _ => rfl) fun _ => rfl
  have outbox := db.flatMap_domainEvents_loadRows order (·.id ∈ ids)
    (StockItem.afterConsume order) fun _ => rfl
  simp only [saveAll, stock, reservations, outbox, List.append_nil,
    decide_eq_true_eq]
  rfl

theorem newId_injective (db : FulfillmentDb) : Function.Injective db.newId := by
  intro first second same
  simp only [newId, UniqueId.mk.injEq] at same
  omega

/-- The fresh rows are the order's, reserved, on locked stock rows, under new
identifiers. -/
theorem mem_freshRows {db : FulfillmentDb} {request : StockReserveRequest}
    {row : ReservationRow} (fresh : row ∈ db.freshRows request) :
    row.reservation.orderReference = request.orderReference ∧
      row.reservation.status = .reserved ∧
      (∃ stockRow ∈ db.stock, isLockedBy request stockRow = true ∧
        stockRow.id = row.stockId ∧
        stockRow.companyCode = row.reservation.companyCode ∧
        stockRow.productCode = row.reservation.productCode) ∧
      db.nextId ≤ row.reservation.id.value ∧
      row.reservation.id.value < db.nextId + request.lines.length := by
  obtain ⟨stockRow, stockMem, rowMem⟩ := List.mem_flatMap.mp fresh
  obtain ⟨reservation, reservationMem, rfl⟩ := List.mem_map.mp rowMem
  obtain ⟨ofOrder, reserved, company, product, _, offset, bound, id⟩ :=
    mem_freshFor reservationMem
  obtain ⟨inStock, locked⟩ := List.mem_filter.mp stockMem
  refine ⟨ofOrder, reserved, ⟨stockRow, inStock, locked, rfl, company.symm,
    product.symm⟩, ?_⟩
  rw [id]
  simp only [newId]
  omega

theorem nodup_freshRows {db : FulfillmentDb} (keyed : db.WellKeyed)
    (request : StockReserveRequest) :
    ((db.freshRows request).map fun row => row.reservation.id).Nodup := by
  have products := nodup_productCode_of_company keyed request.orderReference
    request.companyCode (request.lines.map StockReserveLine.productCode)
  rw [loadRows, List.map_map] at products
  rw [freshRows, List.map_flatMap, List.nodup_flatMap]
  constructor
  · intro row _
    rw [List.map_map]
    exact nodup_freshFor (newId_injective db)
  · refine (List.pairwise_map.mp products).imp fun {first second} differ => ?_
    intro id inFirst inSecond
    simp only [List.map_map] at inFirst inSecond
    obtain ⟨one, oneMem, rfl⟩ := List.mem_map.mp inFirst
    obtain ⟨other, otherMem, same⟩ := List.mem_map.mp inSecond
    exact differ (productCode_of_mem_freshFor (newId_injective db) oneMem
      otherMem same.symm)

/-- Saving a reserved load of an order without reservations on it reserves the
request. -/
theorem saveAll_afterReserve {db : FulfillmentDb} (keyed : db.WellKeyed)
    (request : StockReserveRequest)
    (noReservations : ∀ item ∈ db.loadRows request.orderReference
      (isLockedBy request), item.reservations = []) :
    (db.generated request.lines.length).saveAll
        ((db.loadRows request.orderReference (isLockedBy request)).map
          (StockItem.afterReserve request.orderReference request.retailerCode
            db.newId 0 request.lines)) =
      db.afterReserve request := by
  have stock := saved_stock keyed request.orderReference (isLockedBy request)
    (StockItem.afterReserve request.orderReference request.retailerCode
      db.newId 0 request.lines) fun _ => rfl
  have rows : ((db.loadRows request.orderReference (isLockedBy request)).map
      (StockItem.afterReserve request.orderReference request.retailerCode
        db.newId 0 request.lines)).flatMap toReservationRows =
      db.freshRows request := by
    rw [freshRows, loadRows, List.flatMap_map, List.flatMap_map]
    refine List.flatMap_congr fun row rowMem => ?_
    have nothing := noReservations (db.loadItem request.orderReference row)
      (List.mem_map_of_mem rowMem)
    simp only [toReservationRows, StockItem.afterReserve, nothing,
      List.nil_append]
    rfl
  have reservations : upsertAll (fun row => row.reservation.id)
      mergeReservationRow db.reservations (db.freshRows request) =
      db.reservations ++ db.freshRows request := by
    refine upsertAll_eq_append ?_ (nodup_freshRows keyed request)
    intro row fresh again
    obtain ⟨stored, storedMem, same⟩ := List.mem_map.mp again
    have old := keyed.generated stored storedMem
    obtain ⟨_, _, _, new, _⟩ := mem_freshRows fresh
    rw [same] at old
    omega
  have outbox := db.flatMap_domainEvents_loadRows request.orderReference
    (isLockedBy request) (StockItem.afterReserve request.orderReference
      request.retailerCode db.newId 0 request.lines)
    fun _ => rfl
  simp only [saveAll, generated, stock, rows, reservations, outbox,
    List.append_nil]
  rfl

/-! ## The handlers -/

/-- The order's reservations on locked rows, of which a request repeats. -/
def HasLocked (db : FulfillmentDb) (request : StockReserveRequest) : Prop :=
  ∃ row ∈ db.reservations, row.IsOf request.orderReference ∧
    row.reservation.companyCode = request.companyCode ∧
    row.reservation.productCode ∈
      request.lines.map StockReserveLine.productCode

/-- The order has a reservation with the status on one of the stock rows. -/
def HasOn (db : FulfillmentDb) (order : OrderNumber) (ids : List UniqueId)
    (status : ReservationStatus) : Prop :=
  ∃ row ∈ db.reservations, row.IsOf order ∧ row.stockId ∈ ids ∧
    row.reservation.status = status

/-- A loaded reservation is a row of the order on a selected stock row. -/
theorem mem_loaded_iff {db : FulfillmentDb} {order : OrderNumber}
    {selected : StockRow → Bool} {reservation : Reservation} :
    (∃ item ∈ db.loadRows order selected, reservation ∈ item.reservations) ↔
      ∃ row ∈ db.reservations, row.IsOf order ∧ row.reservation = reservation ∧
        ∃ stockRow ∈ db.stock, selected stockRow = true ∧
          stockRow.id = row.stockId := by
  constructor
  · rintro ⟨item, itemMem, reservationMem⟩
    obtain ⟨stockRow, stockMem, rfl⟩ := List.mem_map.mp itemMem
    obtain ⟨row, rowMem, rfl⟩ := List.mem_map.mp reservationMem
    obtain ⟨ofOrder, onRow⟩ := List.mem_filter.mp rowMem
    obtain ⟨stored, isOf⟩ := List.mem_filter.mp ofOrder
    obtain ⟨inStock, isSelected⟩ := List.mem_filter.mp stockMem
    exact ⟨row, stored, by simpa using isOf, rfl, stockRow, inStock, isSelected,
      by simpa using (of_decide_eq_true onRow).symm⟩
  · rintro ⟨row, stored, isOf, rfl, stockRow, inStock, isSelected, same⟩
    refine ⟨db.loadItem order stockRow,
      List.mem_map_of_mem (List.mem_filter.mpr ⟨inStock, isSelected⟩),
      List.mem_map_of_mem ?_⟩
    refine List.mem_filter.mpr ⟨List.mem_filter.mpr ⟨stored, ?_⟩, ?_⟩
    · exact decide_eq_true isOf
    · exact decide_eq_true same.symm

/-- The loaded reservations of an order are all the loaded reservations. -/
theorem mem_loadedReservations_iff {db : FulfillmentDb} {order : OrderNumber}
    {selected : StockRow → Bool} {reservation : Reservation} :
    reservation ∈ loadedReservations (db.loadRows order selected) order ↔
      ∃ row ∈ db.reservations, row.IsOf order ∧ row.reservation = reservation ∧
        ∃ stockRow ∈ db.stock, selected stockRow = true ∧
          stockRow.id = row.stockId := by
  rw [← mem_loaded_iff, loadedReservations, List.mem_flatMap]
  constructor
  · rintro ⟨item, itemMem, inItem⟩
    exact ⟨item, itemMem, (List.mem_filter.mp inItem).1⟩
  · rintro ⟨item, itemMem, inItem⟩
    obtain ⟨row, _, isOf, same, _⟩ := mem_loaded_iff.mp ⟨item, itemMem, inItem⟩
    refine ⟨item, itemMem, List.mem_filter.mpr ⟨inItem, ?_⟩⟩
    exact decide_eq_true (same ▸ isOf)

/-- A request's locked rows hold a reservation of the order exactly when it
repeats one. -/
theorem loadedReservations_ne_nil_iff {db : FulfillmentDb} (keyed : db.WellKeyed)
    (request : StockReserveRequest) :
    loadedReservations (db.loadRows request.orderReference (isLockedBy request))
        request.orderReference ≠ [] ↔ db.HasLocked request := by
  constructor
  · intro existing
    obtain ⟨reservation, loaded⟩ := List.exists_mem_of_ne_nil _ existing
    obtain ⟨row, stored, isOf, _, stockRow, inStock, locked, same⟩ :=
      mem_loadedReservations_iff.mp loaded
    obtain ⟨owner, ownerMem, sameOwner, company, product⟩ :=
      keyed.onStock row stored
    have sameRow : owner = stockRow :=
      List.inj_on_of_nodup_map keyed.stockIds ownerMem inStock
        (sameOwner.trans same.symm)
    subst sameRow
    simp only [isLockedBy, IsLockedFor, decide_eq_true_eq] at locked
    exact ⟨row, stored, isOf, company ▸ locked.1, product ▸ locked.2⟩
  · rintro ⟨row, stored, isOf, company, product⟩
    obtain ⟨owner, ownerMem, sameOwner, ownerCompany, ownerProduct⟩ :=
      keyed.onStock row stored
    refine List.ne_nil_of_mem (mem_loadedReservations_iff.mpr
      ⟨row, stored, isOf, rfl, owner, ownerMem, ?_, sameOwner⟩)
    simp only [isLockedBy, IsLockedFor, decide_eq_true_eq]
    exact ⟨ownerCompany.trans company, ownerProduct ▸ product⟩

/-- What a reservation that is not refused does to the database. -/
inductive ReserveEffect (db : FulfillmentDb) (request : StockReserveRequest) :
    FulfillmentDb → Prop
  | repeated (existing : db.HasLocked request) : ReserveEffect db request db
  | rejected (payload : StockRejectedPayload) (first : ¬ db.HasLocked request)
      (short : shortagesOf (db.loadRows request.orderReference
        (isLockedBy request)) request.lines ≠ [])
      (ofOrder : payload.orderReference = request.orderReference) :
      ReserveEffect db request (db.recorded (.stockRejected payload))
  | reserved (payload : StockReservedPayload) (first : ¬ db.HasLocked request)
      (served : shortagesOf (db.loadRows request.orderReference
        (isLockedBy request)) request.lines = [])
      (something : db.freshRows request ≠ [])
      (ofOrder : payload.orderReference = request.orderReference) :
      ReserveEffect db request
        ((db.afterReserve request).recorded (.stockReserved payload))

theorem reserve_effect {db db' : FulfillmentDb} {request : StockReserveRequest}
    {reply : FulfillmentReply} (keyed : db.WellKeyed)
    (accepted : db.reserve request = .ok (db', reply)) :
    ReserveEffect db request db' := by
  simp only [reserve, bind_eq_ok_iff] at accepted
  obtain ⟨items, locked, accepted⟩ := accepted
  have loaded : items =
      db.loadRows request.orderReference (isLockedBy request) :=
    lockForOrder_eq_ok keyed locked
  subst loaded
  split at accepted
  · rename_i existing
    cases accepted
    exact .repeated ((loadedReservations_ne_nil_iff keyed request).mp existing)
  · rename_i nothing
    have first : ¬ db.HasLocked request := fun existing =>
      nothing ((loadedReservations_ne_nil_iff keyed request).mpr existing)
    have noReservations : ∀ item ∈ db.loadRows request.orderReference
        (isLockedBy request), item.reservations = [] := by
      intro item itemMem
      by_contra notEmpty
      obtain ⟨reservation, inItem⟩ := List.exists_mem_of_ne_nil _ notEmpty
      have inLoaded := mem_loadedReservations_iff.mpr
        (mem_loaded_iff.mp ⟨item, itemMem, inItem⟩)
      exact nothing (List.ne_nil_of_mem inLoaded)
    have distinct : ((db.loadRows request.orderReference
        (isLockedBy request)).map StockItem.productCode).Nodup :=
      nodup_productCode_of_company keyed _ _ _
    simp only [bind_eq_ok_iff] at accepted
    obtain ⟨outcome, decided, accepted⟩ := accepted
    have effect := reserveOrderStock_effect distinct decided
    cases effect with
    | withoutCarrier unknown => cases accepted
    | rejected carrier payload carrierMem short ofOrder =>
        simp only [Except.ok.injEq, Prod.mk.injEq] at accepted
        obtain ⟨rfl, _⟩ := accepted
        rw [saveAll_recordOnCarrier distinct (domainEvents_loadRows _ _ _)
          (List.mem_map_of_mem carrierMem),
          saveAll_loadRows keyed noReservations]
        exact .rejected payload first short ofOrder
    | reserved carrier payload carrierMem requested served ofOrder =>
        simp only [Except.ok.injEq, Prod.mk.injEq] at accepted
        obtain ⟨rfl, _⟩ := accepted
        rw [saveAll_recordOnCarrier, saveAll_afterReserve keyed request
          noReservations]
        · refine .reserved payload first served ?_ ofOrder
          obtain ⟨row, rowMem, rfl⟩ := List.mem_map.mp carrierMem
          have someFresh : db.freshOn request row ≠ [] := freshFor_ne_nil requested
          obtain ⟨reservation, fresh⟩ := List.exists_mem_of_ne_nil _ someFresh
          exact List.ne_nil_of_mem (List.mem_flatMap.mpr
            ⟨row, rowMem, List.mem_map_of_mem fresh⟩)
        · rw [List.map_map]
          exact distinct
        · intro item itemMem
          obtain ⟨before, beforeMem, rfl⟩ := List.mem_map.mp itemMem
          exact domainEvents_loadRows _ _ _ before beforeMem
        · rw [List.map_map]
          exact List.mem_map_of_mem carrierMem

/-- The items of a load by identifiers have no reservation of the order with a
status exactly when the order has none on those rows. -/
theorem hasNone_loadRows_iff {db : FulfillmentDb} (keyed : db.WellKeyed)
    {order : OrderNumber} {ids : List UniqueId} {status : ReservationStatus} :
    (∀ item ∈ db.loadRows order (·.id ∈ ids), item.HasNone order status) ↔
      ¬ db.HasOn order ids status := by
  constructor
  · rintro none ⟨row, stored, isOf, onRow, hasStatus⟩
    obtain ⟨owner, ownerMem, same, _⟩ := keyed.onStock row stored
    have onOwner : owner.id ∈ ids := by
      rw [same]
      exact onRow
    have loaded : ∃ item ∈ db.loadRows order (·.id ∈ ids),
        row.reservation ∈ item.reservations :=
      mem_loaded_iff.mpr ⟨row, stored, isOf, rfl, owner, ownerMem,
        decide_eq_true onOwner, same⟩
    obtain ⟨item, itemMem, inItem⟩ := loaded
    exact none item itemMem row.reservation inItem isOf hasStatus
  · intro none item itemMem reservation inItem _ hasStatus
    obtain ⟨row, stored, isOf, rfl, stockRow, _, isSelected, same⟩ :=
      mem_loaded_iff.mp ⟨item, itemMem, inItem⟩
    exact none ⟨row, stored, isOf, same ▸ of_decide_eq_true isSelected, hasStatus⟩

/-- Something is reserved on a load exactly when the order has a reserved
reservation on its rows. -/
theorem reservedOver_loadRows_ne_nil_iff {db : FulfillmentDb}
    (keyed : db.WellKeyed) {order : OrderNumber} {ids : List UniqueId} :
    reservedOver order (db.loadRows order (·.id ∈ ids)) ≠ [] ↔
      db.HasOn order ids .reserved := by
  rw [← not_iff_not, ← hasNone_loadRows_iff keyed, not_not, reservedOver,
    List.flatMap_eq_nil_iff]
  refine forall₂_congr fun item _ => ?_
  rw [StockItem.reservedBy, List.filter_eq_nil_iff, StockItem.HasNone]
  refine forall₂_congr fun reservation _ => ?_
  rw [Reservation.isReservedBy_iff, not_and]

/-- What a release that is not refused does to the database. -/
inductive ReleaseEffect (db : FulfillmentDb) (request : StockReleaseRequest)
    (ids : List UniqueId) : FulfillmentDb → Prop
  | repeated (noneConsumed : ¬ db.HasOn request.orderReference ids .consumed)
      (nothing : ¬ db.HasOn request.orderReference ids .reserved) :
      ReleaseEffect db request ids db
  | released (payload : StockReleasedPayload)
      (noneConsumed : ¬ db.HasOn request.orderReference ids .consumed)
      (something : db.HasOn request.orderReference ids .reserved)
      (ofOrder : payload.orderReference = request.orderReference)
      (sameReason : payload.reason = request.reason) :
      ReleaseEffect db request ids
        ((db.afterRelease request.orderReference ids).recorded
          (.stockReleased payload))

theorem release_effect {db db' : FulfillmentDb} {request : StockReleaseRequest}
    {ids : List UniqueId} {reply : FulfillmentReply} (keyed : db.WellKeyed)
    (accepted : db.release request ids = .ok (db', reply)) :
    ReleaseEffect db request ids db' := by
  simp only [release, bind_eq_ok_iff, ite_error_eq_ok_iff, not_not] at accepted
  obtain ⟨items, locked, complete, accepted⟩ := accepted
  obtain ⟨loaded, distinct⟩ := lockByIdsForOrder_eq_ok keyed locked complete
  cases items with
  | nil => cases accepted
  | cons first rest =>
      simp only [bind_eq_ok_iff] at accepted
      obtain ⟨outcome, decided, accepted⟩ := accepted
      obtain ⟨noneConsumed, effect⟩ := releaseOrderStock_effect decided
      rw [loaded] at noneConsumed effect distinct
      rw [hasNone_loadRows_iff keyed] at noneConsumed
      rcases effect with ⟨nothing, rfl⟩ |
        ⟨carrier, payload, something, carrierMem, ofOrder, sameReason, rfl⟩
      · cases accepted
        refine .repeated noneConsumed fun reserved => ?_
        exact (reservedOver_loadRows_ne_nil_iff keyed).mpr reserved nothing
      · simp only [Except.ok.injEq, Prod.mk.injEq] at accepted
        obtain ⟨rfl, _⟩ := accepted
        rw [saveAll_recordOnCarrier, saveAll_afterRelease keyed]
        · exact .released payload noneConsumed
            ((reservedOver_loadRows_ne_nil_iff keyed).mp something) ofOrder
            sameReason
        · rw [List.map_map]
          exact distinct
        · intro item itemMem
          obtain ⟨before, beforeMem, rfl⟩ := List.mem_map.mp itemMem
          exact domainEvents_loadRows _ _ _ before beforeMem
        · exact List.mem_map_of_mem carrierMem

/-- The database after a despatch advice is made of consumed reservations. -/
def afterDespatch (db : FulfillmentDb) (despatch : DespatchAdvice)
    (ids : List UniqueId) : FulfillmentDb :=
  { db.afterConsume despatch.orderReference ids with
    despatches := db.despatches ++ [{ despatch with domainEvents := [] }]
    outbox := db.outbox ++ despatch.domainEvents
    nextId := db.nextId + 1
    nextDespatchNumber := db.nextDespatchNumber + 1 }

/-- What a despatch that is not refused does to the database. -/
inductive DespatchEffect (db : FulfillmentDb) (request : DespatchCreateRequest)
    (ids : List UniqueId) : FulfillmentDb → Prop
  | repeated (nothing : ¬ db.HasOn request.orderReference ids .reserved)
      (consumed : db.HasOn request.orderReference ids .consumed)
      (despatch : DespatchAdvice)
      (found : db.findByOrderReference request.orderReference = some despatch) :
      DespatchEffect db request ids db
  | created (despatch : DespatchAdvice) (payload : OrderDespatchedPayload)
      (noneReleased : ¬ db.HasOn request.orderReference ids .released)
      (something : db.HasOn request.orderReference ids .reserved)
      (absent : db.findByOrderReference request.orderReference = none)
      (ofOrder : despatch.orderReference = request.orderReference)
      (lines : despatch.lines = despatchLinesOf request.orderReference
        (db.loadRows request.orderReference (·.id ∈ ids)))
      (events : despatch.domainEvents = [.orderDespatched payload])
      (payloadOfOrder : payload.orderReference = request.orderReference) :
      DespatchEffect db request ids (db.afterDespatch despatch ids)

/-- A load holds a reservation of the order with a status exactly when the
order has one on its rows. -/
theorem any_loadedReservations_iff {db : FulfillmentDb} (keyed : db.WellKeyed)
    {order : OrderNumber} {ids : List UniqueId} {status : ReservationStatus} :
    (∃ reservation ∈ loadedReservations (db.loadRows order (·.id ∈ ids)) order,
      reservation.status = status) ↔ db.HasOn order ids status := by
  constructor
  · rintro ⟨reservation, loaded, hasStatus⟩
    obtain ⟨row, stored, isOf, rfl, stockRow, _, isSelected, same⟩ :=
      mem_loadedReservations_iff.mp loaded
    exact ⟨row, stored, isOf, same ▸ of_decide_eq_true isSelected, hasStatus⟩
  · rintro ⟨row, stored, isOf, onRow, hasStatus⟩
    obtain ⟨owner, ownerMem, same, _⟩ := keyed.onStock row stored
    refine ⟨row.reservation, ?_, hasStatus⟩
    exact mem_loadedReservations_iff.mpr ⟨row, stored, isOf, rfl, owner, ownerMem,
      decide_eq_true (same ▸ onRow), same⟩

/-- The locked body of a despatch by the case it takes on a load: the order has
something reserved, or only something consumed, or neither. -/
theorem createDespatch_effect {db db' : FulfillmentDb}
    {request : DespatchCreateRequest} {ids : List UniqueId}
    {reply : FulfillmentReply} (keyed : db.WellKeyed)
    (accepted : db.createDespatch request ids = .ok (db', reply)) :
    DespatchEffect db request ids db' := by
  simp only [createDespatch, bind_eq_ok_iff, ite_error_eq_ok_iff, not_not]
    at accepted
  obtain ⟨items, locked, complete, accepted⟩ := accepted
  obtain ⟨loaded, distinct⟩ := lockByIdsForOrder_eq_ok keyed locked complete
  split at accepted
  · simp only [bind_eq_ok_iff] at accepted
    obtain ⟨outcome, decided, accepted⟩ := accepted
    obtain ⟨noneReleased, effect⟩ := createDespatchForOrder_effect decided
    rw [loaded] at noneReleased effect
    rw [hasNone_loadRows_iff keyed] at noneReleased
    rcases effect with ⟨_, rfl⟩ | ⟨despatch, payload, something, ofOrder, lines,
      events, payloadOfOrder, rfl⟩
    · cases accepted
    · have consumed : { db.generated 1 with
            nextDespatchNumber := db.nextDespatchNumber + 1 }.saveAll
          ((db.loadRows request.orderReference (·.id ∈ ids)).map
            (StockItem.afterConsume request.orderReference)) =
          { db.afterConsume request.orderReference ids with
            nextId := db.nextId + 1
            nextDespatchNumber := db.nextDespatchNumber + 1 } := by
        rw [← saveAll_afterConsume keyed request.orderReference ids]
        rfl
      simp only [bind_eq_ok_iff, consumed, saveDespatch, ite_error_eq_ok_iff,
        Except.ok.injEq, Prod.mk.injEq] at accepted
      obtain ⟨saved, ⟨notFound, rfl⟩, rfl, _⟩ := accepted
      have absent : db.findByOrderReference request.orderReference = none := by
        rw [ofOrder, Option.not_isSome_iff_eq_none] at notFound
        exact notFound
      have effect := DespatchEffect.created despatch payload noneReleased
        ((reservedOver_loadRows_ne_nil_iff keyed).mp something) absent ofOrder
        lines events payloadOfOrder
      have sameOrder : db.afterConsume despatch.orderReference ids =
          db.afterConsume request.orderReference ids := by
        rw [ofOrder]
      rw [afterDespatch, sameOrder] at effect
      exact effect
  · rename_i items _ _ noneReserved
    have nothing : ¬ db.HasOn request.orderReference ids .reserved := by
      intro reserved
      obtain ⟨reservation, inLoaded, isReserved⟩ :=
        (any_loadedReservations_iff keyed).mpr reserved
      rw [← loaded] at inLoaded
      cases found : (loadedReservations items request.orderReference).find?
          (·.status = .reserved) with
      | none =>
          rw [List.find?_eq_none] at found
          exact found reservation inLoaded (decide_eq_true isReserved)
      | some selected =>
          cases items with
          | nil => cases inLoaded
          | cons first rest => exact noneReserved first rest selected rfl found
    split at accepted
    · rename_i anyConsumed
      simp only [List.any_eq_true, decide_eq_true_eq] at anyConsumed
      rw [loaded, any_loadedReservations_iff keyed] at anyConsumed
      split at accepted
      · cases accepted
      · rename_i despatch found
        cases accepted
        exact .repeated nothing anyConsumed despatch found
    · cases accepted

/-- The units the lines of a replenishment add to a product. -/
def replenishedUnits (lines : List StockReplenishLine) (productCode : String) :
    Nat :=
  ((lines.filter (·.productCode = productCode)).map fun line =>
    line.units.value).sum

/-- The items of a replenishment, each with the units its lines add. -/
theorem replenishLines_eq_map (items : List StockItem)
    (lines : List StockReplenishLine) :
    replenishLines items lines = items.map fun item =>
      { item with units := item.units + replenishedUnits lines item.productCode } := by
  induction lines generalizing items with
  | nil => simp [replenishLines, replenishedUnits]
  | cons line rest inductionHypothesis =>
      rw [replenishLines, inductionHypothesis, List.map_map]
      refine List.map_congr_left fun item _ => ?_
      by_cases here : item.productCode = line.productCode
      · simp [here, StockItem.replenish, replenishedUnits, Int.add_assoc]
      · have elsewhere : ¬ line.productCode = item.productCode :=
          fun same => here same.symm
        simp [here, elsewhere, replenishedUnits]

/-- A replenishment adds the units of its lines to the stock rows of their
products and changes nothing else. -/
theorem replenish_eq_ok {db db' : FulfillmentDb}
    {request : StockReplenishRequest} {reply : FulfillmentReply}
    (keyed : db.WellKeyed)
    (accepted : db.replenish request = .ok (db', reply)) :
    db' =
      { db with
        stock := db.stock.map fun row =>
          if row.companyCode = request.companyCode then
            { row with
              units :=
                row.units + replenishedUnits request.lines row.productCode }
          else row } := by
  simp only [replenish, lockByProductCodes, bind_eq_ok_iff, Except.ok.injEq,
    Prod.mk.injEq] at accepted
  obtain ⟨items, ⟨loaded, rebuilt, rfl⟩, _, _, rfl, _⟩ := accepted
  let selected :=
    IsLockedFor request.companyCode
      (request.lines.map StockReplenishLine.productCode)
  let cleared : StockItem → StockItem := fun item =>
    { item with reservations := [] }
  have cleared_eq : loaded = (db.loadRows ⟨0⟩ selected).map cleared := by
    have same := reconstituteAll_eq_ok rebuilt (by
      intro item itemMem
      obtain ⟨row, _, rfl⟩ := List.mem_map.mp itemMem
      rfl)
    rw [same, loadRows, List.map_map]
    rfl
  have distinct : (loaded.map StockItem.productCode).Nodup := by
    rw [cleared_eq, List.map_map]
    exact nodup_productCode_of_company keyed ⟨0⟩ request.companyCode _
  have kept : toItemMap loaded = (db.loadRows ⟨0⟩ selected).map cleared := by
    rw [← cleared_eq]
    exact upsertAll_nil_of_nodup distinct
  let change : StockItem → StockItem := fun item =>
    { cleared item with
      units := item.units + replenishedUnits request.lines item.productCode }
  have changed : replenishLines (toItemMap loaded) request.lines =
      (db.loadRows ⟨0⟩ selected).map change := by
    rw [kept, replenishLines_eq_map, List.map_map]
    rfl
  have stock := saved_stock keyed ⟨0⟩ selected change fun _ => rfl
  have rows : ((db.loadRows ⟨0⟩ selected).map change).flatMap
      toReservationRows = [] := by
    rw [List.flatMap_map, List.flatMap_eq_nil_iff]
    exact fun _ _ => rfl
  have outbox := db.flatMap_domainEvents_loadRows ⟨0⟩ selected
    change fun _ => rfl
  rw [changed]
  simp only [saveAll, stock, rows, outbox, List.append_nil, upsertAll]
  congr 1
  refine List.map_congr_left fun row _ => ?_
  by_cases isSelected : selected row = true
  · have ofCompany : row.companyCode = request.companyCode :=
      (of_decide_eq_true isSelected).1
    simp only [isSelected, if_true, if_pos ofCompany]
    rfl
  · rw [if_neg isSelected]
    by_cases ofCompany : row.companyCode = request.companyCode
    · have noLine : replenishedUnits request.lines row.productCode = 0 := by
        have none : request.lines.filter (·.productCode = row.productCode) = [] := by
          rw [List.filter_eq_nil_iff]
          intro line lineMem same
          apply isSelected
          have product : row.productCode = line.productCode :=
            (of_decide_eq_true same).symm
          exact decide_eq_true ⟨ofCompany,
            product ▸ List.mem_map_of_mem lineMem⟩
        rw [replenishedUnits, none]
        rfl
      rw [if_pos ofCompany, noLine]
      simp
    · rw [if_neg ofCompany]

/-- A replenishment adds units to some stock rows and changes nothing else. -/
theorem replenish_effect {db db' : FulfillmentDb}
    {request : StockReplenishRequest} {reply : FulfillmentReply}
    (keyed : db.WellKeyed)
    (accepted : db.replenish request = .ok (db', reply)) :
    ∃ added : StockRow → Nat, db' =
      { db with
        stock := db.stock.map fun row =>
          { row with units := row.units + added row } } := by
  refine ⟨fun row =>
    if row.companyCode = request.companyCode then
      replenishedUnits request.lines row.productCode
    else 0, ?_⟩
  rw [replenish_eq_ok keyed accepted]
  congr 1
  refine List.map_congr_left fun row _ => ?_
  by_cases ofCompany : row.companyCode = request.companyCode
  · simp only [if_pos ofCompany]
  · simp [if_neg ofCompany]

/-! ## What the handlers fail with -/

theorem reconstituteAll_error {items : List StockItem} {error : FulfillmentError}
    (failed : reconstituteAll items = .error error) :
    ∃ item, error = .invalidStockItemSnapshot item := by
  induction items with
  | nil => cases failed
  | cons item rest inductionHypothesis =>
      simp only [reconstituteAll, bind_eq_error_iff] at failed
      rcases failed with invalid | ⟨_, _, inRest | ⟨_, _, impossible⟩⟩
      · unfold StockItem.reconstitute at invalid
        split at invalid
        · cases invalid
          exact ⟨item.id, rfl⟩
        · split at invalid
          · cases invalid
            exact ⟨item.id, rfl⟩
          · cases invalid
      · exact inductionHypothesis inRest
      · cases impossible

theorem lockByIdsForOrder_error {db : FulfillmentDb} {ids : List UniqueId}
    {order : OrderNumber} {error : FulfillmentError}
    (failed : db.lockByIdsForOrder ids order = .error error) :
    ∃ item, error = .invalidStockItemSnapshot item := by
  simp only [lockByIdsForOrder, bind_eq_error_iff] at failed
  rcases failed with invalid | ⟨_, _, impossible⟩
  · exact reconstituteAll_error invalid
  · cases impossible

theorem consumeItems_error {order : OrderNumber} {items : List StockItem}
    {error : FulfillmentError}
    (failed : consumeItems order items = .error error) :
    ∃ reservation, error = .reservationTerminal reservation .released .consumed := by
  induction items with
  | nil => cases failed
  | cons item rest inductionHypothesis =>
      simp only [consumeItems, bind_eq_error_iff] at failed
      rcases failed with refused | ⟨_, _, inRest | ⟨_, _, impossible⟩⟩
      · simp only [StockItem.consume] at refused
        split at refused
        · cases refused
          exact ⟨_, rfl⟩
        · split at refused
          · cases refused
          · cases refused
      · exact inductionHypothesis inRest
      · cases impossible

/-- Consumed reservations without a despatch are reported only where the order
has a consumed reservation on the rows and no despatch advice. -/
theorem createDespatch_consumedWithoutDespatch {db : FulfillmentDb}
    {request : DespatchCreateRequest} {ids : List UniqueId}
    {order : OrderNumber} (keyed : db.WellKeyed)
    (failed : db.createDespatch request ids =
      .error (.consumedWithoutDespatch order)) :
    order = request.orderReference ∧
      db.HasOn request.orderReference ids .consumed ∧
      db.findByOrderReference request.orderReference = none := by
  simp only [createDespatch, bind_eq_error_iff] at failed
  rcases failed with invalid | ⟨items, locked, failed⟩
  · obtain ⟨item, impossible⟩ := lockByIdsForOrder_error invalid
    cases impossible
  · split at failed
    · cases failed
    · rename_i complete
      obtain ⟨loaded, _⟩ :=
        lockByIdsForOrder_eq_ok keyed locked (not_not.mp complete)
      split at failed
      · simp only [bind_eq_error_iff] at failed
        rcases failed with refused | ⟨outcome, decided, failed⟩
        · simp only [createDespatchForOrder, bind_eq_error_iff] at refused
          rcases refused with refused | ⟨_, _, refused⟩
          · obtain ⟨_, impossible⟩ := consumeItems_error refused
            cases impossible
          · split at refused
            · cases refused
            · rename_i notEmpty
              simp [DespatchAdvice.create, notEmpty, bind, Except.bind] at refused
        · cases outcome with
          | noReservations => cases failed
          | created items' despatch =>
              simp only [bind_eq_error_iff, saveDespatch] at failed
              rcases failed with duplicate | ⟨_, _, impossible⟩
              · split at duplicate <;> cases duplicate
              · cases impossible
      · split at failed
        · rename_i anyConsumed
          simp only [List.any_eq_true, decide_eq_true_eq] at anyConsumed
          rw [loaded, any_loadedReservations_iff keyed] at anyConsumed
          split at failed
          · rename_i absent
            cases failed
            exact ⟨rfl, anyConsumed, absent⟩
          · cases failed
        · cases failed

/-- Stock rows of one company with valid counters are locked and loaded, all of
them. -/
theorem lockByIdsForOrder_isOk {db : FulfillmentDb} {ids : List UniqueId}
    {companyCode : String} (keyed : db.WellKeyed)
    (counters : ∀ row ∈ db.stock,
      0 ≤ row.reservedUnits ∧ row.reservedUnits ≤ row.units)
    (distinct : ids.Nodup)
    (stocked : ∀ id ∈ ids, ∃ row ∈ db.stock,
      row.id = id ∧ row.companyCode = companyCode) (order : OrderNumber) :
    db.lockByIdsForOrder ids order = .ok (db.loadRows order (·.id ∈ ids)) ∧
      (db.loadRows order (·.id ∈ ids)).length = ids.length := by
  have sameCompany : ∀ row ∈ db.stock, decide (row.id ∈ ids) = true →
      row.companyCode = companyCode := by
    intro row rowMem selected
    obtain ⟨other, otherMem, same, company⟩ :=
      stocked row.id (of_decide_eq_true selected)
    have sameRow : other = row :=
      List.inj_on_of_nodup_map keyed.stockIds otherMem rowMem same
    exact sameRow ▸ company
  have products := nodup_productCode_loadRows keyed order companyCode sameCompany
  have valid : ∀ item ∈ db.loadRows order (·.id ∈ ids),
      0 ≤ item.reservedUnits ∧ item.reservedUnits ≤ item.units := by
    intro item itemMem
    obtain ⟨row, rowMem, rfl⟩ := List.mem_map.mp itemMem
    exact counters row (List.mem_filter.mp rowMem).1
  obtain ⟨items, rebuilt⟩ := reconstituteAll_isOk valid
  have same := reconstituteAll_eq_ok rebuilt
    (domainEvents_loadRows db order (·.id ∈ ids))
  subst same
  constructor
  · have kept : toItemMap (db.loadRows order (·.id ∈ ids)) =
        db.loadRows order (·.id ∈ ids) :=
      upsertAll_nil_of_nodup products
    rw [loadRows] at rebuilt kept
    simp only [lockByIdsForOrder, rebuilt, bind, Except.bind, kept]
    rfl
  · have subset : ids ⊆ (db.stock.filter (·.id ∈ ids)).map StockRow.id := by
      intro id idMem
      obtain ⟨row, rowMem, rfl, _⟩ := stocked id idMem
      exact List.mem_map_of_mem
        (List.mem_filter.mpr ⟨rowMem, decide_eq_true idMem⟩)
    have subset' : (db.stock.filter (·.id ∈ ids)).map StockRow.id ⊆ ids := by
      intro id idMem
      obtain ⟨row, rowMem, rfl⟩ := List.mem_map.mp idMem
      exact of_decide_eq_true (List.mem_filter.mp rowMem).2
    have nodup : ((db.stock.filter (·.id ∈ ids)).map StockRow.id).Nodup :=
      (List.filter_sublist.map _).nodup keyed.stockIds
    have atMost := (List.subperm_of_subset nodup subset').length_le
    have atLeast := (List.subperm_of_subset distinct subset).length_le
    rw [List.length_map] at atMost atLeast
    rw [loadRows, List.length_map]
    omega

/-- A release on stock rows of one company with valid counters is refused only
for a consumed reservation. -/
theorem release_isOk {db : FulfillmentDb} {request : StockReleaseRequest}
    {ids : List UniqueId} {companyCode : String} (keyed : db.WellKeyed)
    (counters : ∀ row ∈ db.stock,
      0 ≤ row.reservedUnits ∧ row.reservedUnits ≤ row.units)
    (distinct : ids.Nodup) (notEmpty : ids ≠ [])
    (stocked : ∀ id ∈ ids, ∃ row ∈ db.stock,
      row.id = id ∧ row.companyCode = companyCode)
    (noneConsumed : ¬ db.HasOn request.orderReference ids .consumed) :
    ∃ result, db.release request ids = .ok result := by
  obtain ⟨locked, complete⟩ := lockByIdsForOrder_isOk keyed counters distinct
    stocked request.orderReference
  cases loaded : db.loadRows request.orderReference (·.id ∈ ids) with
  | nil =>
      rw [loaded, List.length_nil] at complete
      exact absurd (List.length_eq_zero_iff.mp complete.symm) notEmpty
  | cons first rest =>
      have none := (hasNone_loadRows_iff keyed).mpr noneConsumed
      rw [loaded] at none locked complete
      obtain ⟨outcome, decided⟩ :=
        releaseOrderStock_isOk first.companyCode request.reason none
      simp only [release, locked, bind, Except.bind, complete, ne_eq,
        not_true_eq_false, if_false, decided]
      cases outcome with
      | alreadyReleased => exact ⟨_, rfl⟩
      | released items' released => exact ⟨_, rfl⟩

/-- A despatch of reserved reservations on such rows is refused only for a
released one, or where the order already has a despatch advice. -/
theorem createDespatch_isOk {db : FulfillmentDb} {request : DespatchCreateRequest}
    {ids : List UniqueId} {companyCode : String} (keyed : db.WellKeyed)
    (counters : ∀ row ∈ db.stock,
      0 ≤ row.reservedUnits ∧ row.reservedUnits ≤ row.units)
    (distinct : ids.Nodup)
    (stocked : ∀ id ∈ ids, ∃ row ∈ db.stock,
      row.id = id ∧ row.companyCode = companyCode)
    (noneReleased : ¬ db.HasOn request.orderReference ids .released)
    (something : db.HasOn request.orderReference ids .reserved)
    (absent : db.findByOrderReference request.orderReference = none) :
    ∃ result, db.createDespatch request ids = .ok result := by
  obtain ⟨locked, complete⟩ := lockByIdsForOrder_isOk keyed counters distinct
    stocked request.orderReference
  have reserved := (reservedOver_loadRows_ne_nil_iff keyed).mpr something
  obtain ⟨reservation, loadedMem, isReserved⟩ :=
    (any_loadedReservations_iff keyed).mpr something
  have none := (hasNone_loadRows_iff keyed).mpr noneReleased
  cases loaded : db.loadRows request.orderReference (·.id ∈ ids) with
  | nil =>
      rw [loaded] at loadedMem
      cases loadedMem
  | cons first rest =>
      rw [loaded] at none locked complete reserved loadedMem
      cases found : (loadedReservations (first :: rest)
          request.orderReference).find? (·.status = .reserved) with
      | none =>
          rw [List.find?_eq_none] at found
          exact absurd (decide_eq_true isReserved) (found reservation loadedMem)
      | some selected =>
          obtain ⟨despatch, ofOrder, decided⟩ := createDespatchForOrder_isOk
            first.companyCode selected.retailerCode db.nextDespatchNumber
            (db.newId 0) none reserved
          have unique : ({ db.generated 1 with
              nextDespatchNumber := db.nextDespatchNumber + 1 }.saveAll
                ((first :: rest).map (StockItem.afterConsume
                  request.orderReference))).findByOrderReference
                    despatch.orderReference = Option.none := by
            rw [ofOrder]
            exact absent
          simp only [createDespatch, locked, bind, Except.bind, complete, ne_eq,
            not_true_eq_false, if_false, found, decided, saveDespatch, unique,
            Option.isSome_none, Bool.false_eq_true]
          exact ⟨_, rfl⟩

end FulfillmentDb

end OrderToCash.Fulfillment
