import OrderToCash.Fulfillment.Ledger
import OrderToCash.Fulfillment.Service
import OrderToCash.Locking.Threads
import OrderToCash.Table.Grouping

/-!
# The row locks of the Fulfillment transactions

A transaction does not see the database at one moment.  Its first statement
locks stock rows one by one, as the database scans them, reads each when it has
the lock, and returns them in the order of the index; the second locks the
order's reservations on them; a despatch locks the row of the number sequence
last.  What it decides, and what it writes in the end, rests on these reads.
-/

namespace OrderToCash.Fulfillment

open OrderToCash.Checked
open OrderToCash.Contracts
open OrderToCash.Kernel
open OrderToCash.Locking
open OrderToCash.Table

/-! ## What is locked -/

/-- What `FOR UPDATE` is taken on: a stock row, the reservations of an order on a
stock row, and the row the despatch numbers are counted in. -/
inductive Resource
  | stockRow (id : UniqueId)
  | reservations (stockId : UniqueId) (order : OrderNumber)
  | despatchNumbers
deriving DecidableEq, Repr

/-- What is read of a resource with its lock. -/
abbrev Resource.Value : Resource → Type
  | .stockRow _ => Option StockRow
  | .reservations _ _ => List ReservationRow
  | .despatchNumbers => Nat

/-- A result as it is answered, with its error or without. -/
abbrev FulfillmentResult := Except FulfillmentError FulfillmentReply

abbrev RowProgram := Program Resource.Value FulfillmentDb FulfillmentResult

/-- The columns of a stock row that nothing ever changes. -/
def StockRow.identity (row : StockRow) : UniqueId × String × String :=
  (row.id, row.companyCode, row.productCode)

/-- The stock rows a call locks. -/
def FulfillmentCall.locks : FulfillmentCall → StockRow → Bool
  | .stockReserve request =>
      FulfillmentDb.IsLockedFor request.companyCode
        (request.lines.map StockReserveLine.productCode)
  | .stockRelease _ stockIds | .despatchCreate _ stockIds =>
      fun row => row.id ∈ stockIds
  | .despatchLooked _ => fun _ => false
  | .stockReplenish request =>
      FulfillmentDb.IsLockedFor request.companyCode
        (request.lines.map StockReplenishLine.productCode)

namespace FulfillmentDb

def readResource (db : FulfillmentDb) : (resource : Resource) → resource.Value
  | .stockRow id => db.stock.find? (·.id = id)
  | .reservations stockId order =>
      db.reservations.filter fun row => row.stockId = stockId ∧ row.IsOf order
  | .despatchNumbers => db.nextDespatchNumber

/-! ## The transactions after their loads -/

/-- A stock row as an item, with the reservations that were read for it. -/
def loadedItem (reservations : List ReservationRow) (row : StockRow) : StockItem :=
  { id := row.id
    companyCode := row.companyCode
    productCode := row.productCode
    units := row.units
    reservedUnits := row.reservedUnits
    lowStockThreshold := row.lowStockThreshold
    reservations :=
      (reservations.filter (·.stockId = row.id)).map ReservationRow.reservation
    domainEvents := [] }

/-- The items of the rows that were read. -/
def loadedItems (rows : List StockRow) (reservations : List ReservationRow) :
    Except FulfillmentError (List StockItem) := do
  let items ← reconstituteAll (rows.map (loadedItem reservations))
  .ok (toItemMap items)

/-- `StockReservationHandler.reserve` once its items are loaded. -/
def reserveLoaded (db : FulfillmentDb) (request : StockReserveRequest)
    (items : List StockItem) :
    Except FulfillmentError (FulfillmentDb × FulfillmentReply) := do
  let order := request.orderReference
  let existing := loadedReservations items order
  if existing ≠ [] then
    .ok (db, .alreadyReserved order (existing.map reservationRef))
  else do
    let outcome ← reserveOrderStock items request db.newId
    match outcome with
    | .withoutCarrier => .error (.noKnownStockItem order)
    | .rejected items' shortages =>
        .ok (db.saveAll items', .rejected order shortages)
    | .reserved items' reservations =>
        .ok ((db.generated request.lines.length).saveAll items',
          .accepted order reservations)

/-- `StockReservationHandler.release` once its items are loaded. -/
def releaseLoaded (db : FulfillmentDb) (request : StockReleaseRequest)
    (stockIds : List UniqueId) (items : List StockItem) :
    Except FulfillmentError (FulfillmentDb × FulfillmentReply) := do
  let order := request.orderReference
  if items.length ≠ stockIds.length then
    .error (.concurrentReservationChange order)
  else
    match items with
    | [] => .error (.concurrentReservationChange order)
    | first :: _ => do
        let outcome ←
          releaseOrderStock items order first.companyCode request.reason
        match outcome with
        | .alreadyReleased => .ok (db, .alreadyReleased order)
        | .released items' released =>
            .ok (db.saveAll items', .released order released)

/-- `DespatchCreationHandler.create` once its items are loaded, with the number
that is allocated where an advice is made. -/
def createDespatchLoaded (db : FulfillmentDb) (request : DespatchCreateRequest)
    (stockIds : List UniqueId) (items : List StockItem) (number : Nat) :
    Except FulfillmentError (FulfillmentDb × FulfillmentReply) := do
  let order := request.orderReference
  if items.length ≠ stockIds.length then
    .error (.concurrentReservationChange order)
  else
    let orderReservations := loadedReservations items order
    match items, orderReservations.find? (·.status = .reserved) with
    | first :: _, some reserved => do
        let outcome ←
          createDespatchForOrder items order first.companyCode
            reserved.retailerCode number (db.newId 0)
        match outcome with
        | .noReservations => .error (.noReservedStockForDespatch order)
        | .created items' despatch => do
            let allocated :=
              { db.generated 1 with nextDespatchNumber := number + 1 }
            let db' ← (allocated.saveAll items').saveDespatch despatch
            .ok (db', replyFromSnapshot despatch true)
    | _, _ =>
        if orderReservations.any (·.status = .consumed) then
          match db.findByOrderReference order with
          | none => .error (.consumedWithoutDespatch order)
          | some despatch => .ok (db, replyFromSnapshot despatch false)
        else
          .error (.noReservedStockForDespatch order)

theorem createDespatch_eq (db : FulfillmentDb) (request : DespatchCreateRequest)
    (stockIds : List UniqueId) :
    db.createDespatch request stockIds =
      db.lockByIdsForOrder stockIds request.orderReference >>= fun items =>
        db.createDespatchLoaded request stockIds items db.nextDespatchNumber := rfl

/-- A despatch allocates a number where the order has reserved stock on the rows
that were found. -/
def AllocatesNumber (order : OrderNumber) (stockIds : List UniqueId)
    (items : List StockItem) : Prop :=
  items.length = stockIds.length ∧
    ∃ reservation ∈ loadedReservations items order, reservation.status = .reserved

instance (order : OrderNumber) (stockIds : List UniqueId) (items : List StockItem) :
    Decidable (AllocatesNumber order stockIds items) :=
  inferInstanceAs (Decidable (_ ∧ _))

/-- `ReplenishStockHandler.execute` once its items are loaded. -/
def replenishLoaded (db : FulfillmentDb) (request : StockReplenishRequest)
    (items : List StockItem) :
    Except FulfillmentError (FulfillmentDb × FulfillmentReply) := do
  let productCodes := request.lines.map StockReplenishLine.productCode
  assertKnownProducts request.companyCode items request.lines
  let items' := replenishLines items request.lines
  let views :=
    (productCodes.eraseDups.filterMap (itemOf items')).map stockView
  .ok (db.saveAll items', .replenished views)

end FulfillmentDb

/-! ## The transactions, lock by lock -/

/-- The order in which the database scans what a statement of a call selects, and so
locks it: the stock rows, and the order's reservations by their stock rows. -/
structure ScanOrder where
  stock : FulfillmentCall → List StockRow → List StockRow
  stock_perm : ∀ call rows, (stock call rows).Perm rows
  reservations : FulfillmentCall → List StockRow → List StockRow
  reservations_perm : ∀ call rows, (reservations call rows).Perm rows

/-- Every statement scans by the index on the company and the product. -/
def ScanOrder.byIndex : ScanOrder where
  stock _ rows := rows
  stock_perm _ rows := List.Perm.refl rows
  reservations _ rows := rows
  reservations_perm _ rows := List.Perm.refl rows

/-- Commit what was decided, or roll back with its error. -/
def commitOrRollBack (db : FulfillmentDb) :
    Except FulfillmentError (FulfillmentDb × FulfillmentReply) →
      FulfillmentDb × FulfillmentResult
  | .ok (db', reply) => (db', .ok reply)
  | .error error => (db, .error error)

/-- What was found of some rows of the index, in their order. -/
def inIndexOrder (rows found : List StockRow) : List StockRow :=
  rows.filterMap fun row => found.find? (·.id = row.id)

section Statements

variable (scan : ScanOrder) (call : FulfillmentCall) (rows : List StockRow)

/-- `SELECT … FROM stock … ORDER BY company_code, product_code FOR UPDATE`. -/
def lockStockRows (next : List StockRow → RowProgram) : RowProgram :=
  Program.lockAll (fun row : StockRow => Resource.stockRow row.id)
    (fun _ found => found.toList) (scan.stock call rows) fun found =>
      next (inIndexOrder rows found)

/-- `SELECT … FROM reservations WHERE stock_id IN … FOR UPDATE`, on the rows that
were found. -/
def lockReservations (order : OrderNumber) (found : List StockRow)
    (next : List ReservationRow → RowProgram) : RowProgram :=
  Program.lockAll (fun row : StockRow => Resource.reservations row.id order)
    (fun _ found => found)
    (scan.reservations call (rows.filter fun row => row.id ∈ found.map StockRow.id)) next

/-- Load the items of some rows with the order's reservations on them, and go on
with what the load gives. -/
def lockItems (order : OrderNumber)
    (next : Except FulfillmentError (List StockItem) → RowProgram) : RowProgram :=
  lockStockRows scan call rows fun found =>
    lockReservations scan call rows order found fun reservations =>
      next (FulfillmentDb.loadedItems found reservations)

end Statements

/-- Publish what is decided on the items that were loaded. -/
def conclude (body : FulfillmentDb → List StockItem →
      Except FulfillmentError (FulfillmentDb × FulfillmentReply))
    (loaded : Except FulfillmentError (List StockItem)) : RowProgram :=
  .publish fun db => commitOrRollBack db (loaded >>= body db)

/-- The transaction of a call on the rows of the index, if all its reads outside
the locks are made. -/
def rowProgram (scan : ScanOrder) (index : List StockRow) (call : FulfillmentCall) :
    Option RowProgram :=
  let rows := index.filter call.locks
  match call with
  | .stockReserve request =>
      some (lockItems scan call rows request.orderReference
        (conclude fun db => db.reserveLoaded request))
  | .stockRelease request stockIds =>
      some (lockItems scan call rows request.orderReference
        (conclude fun db => db.releaseLoaded request stockIds))
  | .despatchLooked _ => none
  | .despatchCreate request stockIds =>
      some (lockItems scan call rows request.orderReference fun loaded =>
        if loaded.toOption.any
            (FulfillmentDb.AllocatesNumber request.orderReference stockIds ·) then
          .lock .despatchNumbers fun number =>
            conclude (fun db items =>
              db.createDespatchLoaded request stockIds items number) loaded
        else
          conclude (fun db items =>
            db.createDespatchLoaded request stockIds items db.nextDespatchNumber)
              loaded)
  | .stockReplenish request =>
      some (lockStockRows scan call rows fun found =>
        conclude (fun db => db.replenishLoaded request)
          (FulfillmentDb.loadedItems found []))

/-! ## Run on their own, they are the transactions -/

section Run

variable {db : FulfillmentDb} {index : List StockRow}
  (sameIndex : db.stock.map StockRow.identity = index.map StockRow.identity)

theorem locks_of_identity (call : FulfillmentCall) (row other : StockRow)
    (same : row.identity = other.identity) : call.locks row = call.locks other := by
  simp only [StockRow.identity, Prod.mk.injEq] at same
  cases call with
  | stockReserve | stockReplenish =>
      simp only [FulfillmentCall.locks, FulfillmentDb.IsLockedFor, same]
  | stockRelease | despatchCreate => simp only [FulfillmentCall.locks, same]
  | despatchLooked => rfl

include sameIndex

/-- The rows of a call have their identifiers in common with the index. -/
theorem map_id_locked (call : FulfillmentCall) :
    (db.stock.filter call.locks).map StockRow.id =
      (index.filter call.locks).map StockRow.id := by
  have identities := map_filter_of_map_eq (locks_of_identity call) sameIndex
  have ids := congrArg (List.map Prod.fst) identities
  rw [List.map_map, List.map_map] at ids
  exact ids

/-- The rows a call locks are read as they are stored, in the order of the scan. -/
theorem collected_stockRows_perm (keyed : db.WellKeyed) (scan : ScanOrder)
    (call : FulfillmentCall) :
    (collected FulfillmentDb.readResource db (fun row : StockRow => .stockRow row.id)
        (fun _ found => found.toList) (scan.stock call (index.filter call.locks))).Perm
      (db.stock.filter call.locks) := by
  have byId : ∀ rows : List StockRow,
      collected FulfillmentDb.readResource db (fun row : StockRow => .stockRow row.id)
          (fun _ found => found.toList) rows =
        (rows.map StockRow.id).flatMap fun id => (db.stock.find? (·.id = id)).toList := by
    intro rows
    rw [List.flatMap_map]
    rfl
  have itself : ∀ row ∈ db.stock.filter call.locks,
      (db.stock.find? (·.id = row.id)).toList = [row] := by
    intro row rowMem
    rw [find?_key_of_mem keyed.stockIds (List.mem_filter.mp rowMem).1]
    rfl
  have inOrder : collected FulfillmentDb.readResource db
      (fun row : StockRow => .stockRow row.id) (fun _ found => found.toList)
      (index.filter call.locks) = db.stock.filter call.locks := by
    rw [byId, ← map_id_locked sameIndex call, List.flatMap_map, List.flatMap_congr itself]
    simp
  rw [← inOrder]
  exact (scan.stock_perm call _).flatMap_right _

/-- The statement returns the rows a call locks as they are stored. -/
theorem inIndexOrder_collected (keyed : db.WellKeyed) (scan : ScanOrder)
    (call : FulfillmentCall) :
    inIndexOrder (index.filter call.locks)
        (collected FulfillmentDb.readResource db (fun row : StockRow => .stockRow row.id)
          (fun _ found => found.toList) (scan.stock call (index.filter call.locks))) =
      db.stock.filter call.locks := by
  have perm := collected_stockRows_perm sameIndex keyed scan call
  generalize collected FulfillmentDb.readResource db
    (fun row : StockRow => .stockRow row.id) (fun _ found => found.toList)
    (scan.stock call (index.filter call.locks)) = found at perm
  have distinct : (found.map StockRow.id).Nodup :=
    (perm.map StockRow.id).nodup_iff.mpr
      ((List.filter_sublist.map _).nodup keyed.stockIds)
  have byId : inIndexOrder (index.filter call.locks) found =
      ((index.filter call.locks).map StockRow.id).filterMap fun id =>
        found.find? (·.id = id) := by
    rw [List.filterMap_map]
    rfl
  have itself : ∀ row ∈ db.stock.filter call.locks,
      found.find? (·.id = row.id) = some row := fun row rowMem =>
    find?_key_of_mem distinct (perm.mem_iff.mpr rowMem)
  rw [byId, ← map_id_locked sameIndex call, List.filterMap_map]
  calc
    _ = (db.stock.filter call.locks).filterMap some := List.filterMap_congr itself
    _ = db.stock.filter call.locks := List.filterMap_some

/-- All the rows a call locks are found. -/
theorem filter_found (call : FulfillmentCall) :
    (index.filter call.locks).filter
        (fun row => row.id ∈ (db.stock.filter call.locks).map StockRow.id) =
      index.filter call.locks := by
  rw [map_id_locked sameIndex call, List.filter_eq_self]
  exact fun row rowMem => decide_eq_true (List.mem_map_of_mem rowMem)

/-- The reservations of each row are read as they are stored. -/
theorem loadedItems_collected (keyed : db.WellKeyed) (scan : ScanOrder)
    (call : FulfillmentCall) (order : OrderNumber) :
    FulfillmentDb.loadedItems (db.stock.filter call.locks)
        (collected FulfillmentDb.readResource db
          (fun row : StockRow => .reservations row.id order) (fun _ found => found)
          (scan.reservations call (index.filter call.locks))) =
      FulfillmentDb.loadedItems (db.stock.filter call.locks) (db.reservationsOf order) := by
  let part : UniqueId → List ReservationRow := fun id =>
    db.reservations.filter fun stored => stored.stockId = id ∧ stored.IsOf order
  let scanned := (scan.reservations call (index.filter call.locks)).map StockRow.id
  have byId : collected FulfillmentDb.readResource db
      (fun row : StockRow => .reservations row.id order) (fun _ found => found)
      (scan.reservations call (index.filter call.locks)) = scanned.flatMap part := by
    rw [List.flatMap_map]
    rfl
  have perm : scanned.Perm ((db.stock.filter call.locks).map StockRow.id) := by
    rw [map_id_locked sameIndex call]
    exact (scan.reservations_perm call _).map _
  have distinct : scanned.Nodup :=
    perm.nodup_iff.mpr ((List.filter_sublist.map _).nodup keyed.stockIds)
  rw [byId]
  unfold FulfillmentDb.loadedItems
  congr 2
  apply List.map_congr_left
  intro row rowMem
  have ofPart : ∀ id ∈ scanned, ∀ stored ∈ part id, stored.stockId = id :=
    fun id _ stored storedMem => (of_decide_eq_true (List.mem_filter.mp storedMem).2).1
  have own : (scanned.flatMap part).filter (·.stockId = row.id) = part row.id :=
    filter_flatMap_part (by rwa [List.map_id']) ofPart
      (perm.mem_iff.mpr (List.mem_map_of_mem rowMem))
  have same : (db.reservationsOf order).filter (·.stockId = row.id) = part row.id := by
    simp only [part, FulfillmentDb.reservationsOf, List.filter_filter, Bool.decide_and]
  simp only [FulfillmentDb.loadedItem, same, own]

theorem run_lockItems (keyed : db.WellKeyed) (scan : ScanOrder) (call : FulfillmentCall)
    (order : OrderNumber) (next : Except FulfillmentError (List StockItem) → RowProgram) :
    (lockItems scan call (index.filter call.locks) order next).run
        FulfillmentDb.readResource db =
      (next (FulfillmentDb.loadedItems (db.stock.filter call.locks)
        (db.reservationsOf order))).run FulfillmentDb.readResource db := by
  rw [lockItems, lockStockRows, Program.run_lockAll,
    inIndexOrder_collected sameIndex keyed, lockReservations, Program.run_lockAll,
    filter_found sameIndex, loadedItems_collected sameIndex keyed]

/-- What a call does lock by lock, run on its own, is its transaction. -/
theorem run_rowProgram (keyed : db.WellKeyed) {scan : ScanOrder} {call : FulfillmentCall}
    {program : RowProgram} (isProgram : rowProgram scan index call = some program) :
    ∃ result, FulfillmentSystem.transaction db call = some result ∧
      program.run FulfillmentDb.readResource db = commitOrRollBack db result := by
  cases call with
  | stockReserve request =>
      cases isProgram
      exact ⟨_, rfl, run_lockItems sameIndex keyed scan (.stockReserve request) _ _⟩
  | stockRelease request stockIds =>
      cases isProgram
      exact ⟨_, rfl, run_lockItems sameIndex keyed scan (.stockRelease request stockIds) _ _⟩
  | despatchLooked request => cases isProgram
  | despatchCreate request stockIds =>
      cases isProgram
      refine ⟨_, rfl,
        (run_lockItems sameIndex keyed scan (.despatchCreate request stockIds) _ _).trans ?_⟩
      split
      · rfl
      · rfl
  | stockReplenish request =>
      cases isProgram
      refine ⟨_, rfl, ?_⟩
      rw [lockStockRows, Program.run_lockAll, inIndexOrder_collected sameIndex keyed]
      rfl

end Run

end OrderToCash.Fulfillment
