import OrderToCash.Fulfillment.Store

/-!
# The Fulfillment transactions

The bodies the command handlers run under the stock row locks.  A locked body
is one step of the database: transactions that lock a common stock row run one
after the other, and an error rolls the whole body back.
-/

namespace OrderToCash.Fulfillment

open OrderToCash.Contracts
open OrderToCash.Kernel

/-- What is reported of a replenished item. -/
structure StockView where
  companyCode : String
  productCode : String
  units : Int
  reservedUnits : Int
  availableUnits : Int
  lowStockThreshold : Int
deriving DecidableEq, Repr

/-- The replies of the four requests. -/
inductive FulfillmentReply
  | accepted (order : OrderNumber) (reservations : List ReservationRef)
  | alreadyReserved (order : OrderNumber) (reservations : List ReservationRef)
  | rejected (order : OrderNumber) (shortages : List Shortage)
  | released (order : OrderNumber) (released : List ReservationRef)
  | alreadyReleased (order : OrderNumber)
  | despatch (order : OrderNumber) (despatchReference : Nat) (created : Bool)
      (lines : List DespatchLine)
  | replenished (items : List StockView)
deriving DecidableEq, Repr

namespace FulfillmentDb

/-- Identifiers generated from the counter on. -/
def newId (db : FulfillmentDb) (index : Nat) : UniqueId := ⟨db.nextId + index⟩

/-- The order's reservations among loaded items. -/
def loadedReservations (items : List StockItem) (order : OrderNumber) :
    List Reservation :=
  items.flatMap fun item =>
    item.reservations.filter (·.orderReference = order)

/-- Count the identifiers a transaction generated. -/
def generated (db : FulfillmentDb) (count : Nat) : FulfillmentDb :=
  { db with nextId := db.nextId + count }

/-- `StockReservationHandler.reserve`: a repeat is recognised by the order's
reservation rows on the locked items. -/
def reserve (db : FulfillmentDb) (request : StockReserveRequest) :
    Except FulfillmentError (FulfillmentDb × FulfillmentReply) := do
  let order := request.orderReference
  let items ←
    db.lockForOrder request.companyCode
      (request.lines.map StockReserveLine.productCode) order
  let existing := loadedReservations items order
  if existing ≠ [] then
    .ok (db, .alreadyReserved order (existing.map reservationRef))
  else do
    let outcome ← reserveOrderStock items request db.newId
    match outcome with
    | .withoutCarrier => .error (.noKnownStockItem order)
    | .rejected items' shortages =>
        .ok (db.saveAll items', .rejected order shortages)
    | .reserved items' reservations =>
        .ok ((db.generated request.lines.length).saveAll items',
          .accepted order reservations)

/-- The locked part of `StockReservationHandler.release`, on the stock rows an
earlier read found. -/
def release (db : FulfillmentDb) (request : StockReleaseRequest)
    (stockIds : List UniqueId) :
    Except FulfillmentError (FulfillmentDb × FulfillmentReply) := do
  let order := request.orderReference
  let items ← db.lockByIdsForOrder stockIds order
  if items.length ≠ stockIds.length then
    .error (.concurrentReservationChange order)
  else
    match items with
    | [] => .error (.concurrentReservationChange order)
    | first :: _ => do
        let outcome ←
          releaseOrderStock items order first.companyCode request.reason
        match outcome with
        | .alreadyReleased => .ok (db, .alreadyReleased order)
        | .released items' released =>
            .ok (db.saveAll items', .released order released)

/-- The reply a despatch advice already made is answered with. -/
def replyFromSnapshot (despatch : DespatchAdvice) (created : Bool) :
    FulfillmentReply :=
  .despatch despatch.orderReference despatch.despatchReference created
    despatch.lines

/-- The locked part of `DespatchCreationHandler.create`, on the stock rows an
earlier read found. -/
def createDespatch (db : FulfillmentDb) (request : DespatchCreateRequest)
    (stockIds : List UniqueId) :
    Except FulfillmentError (FulfillmentDb × FulfillmentReply) := do
  let order := request.orderReference
  let items ← db.lockByIdsForOrder stockIds order
  if items.length ≠ stockIds.length then
    .error (.concurrentReservationChange order)
  else
    let orderReservations := loadedReservations items order
    match items, orderReservations.find? (·.status = .reserved) with
    | first :: _, some reserved => do
        let despatchReference := db.nextDespatchNumber
        let outcome ←
          createDespatchForOrder items order first.companyCode
            reserved.retailerCode despatchReference (db.newId 0)
        match outcome with
        | .noReservations => .error (.noReservedStockForDespatch order)
        | .created items' despatch => do
            let allocated :=
              { db.generated 1 with
                nextDespatchNumber := db.nextDespatchNumber + 1 }
            let db' ← (allocated.saveAll items').saveDespatch despatch
            .ok (db', replyFromSnapshot despatch true)
    | _, _ =>
        if orderReservations.any (·.status = .consumed) then
          match db.findByOrderReference order with
          | none => .error (.consumedWithoutDespatch order)
          | some despatch => .ok (db, replyFromSnapshot despatch false)
        else
          .error (.noReservedStockForDespatch order)

/-- The lines name stocked products only. -/
def assertKnownProducts (companyCode : String) (items : List StockItem) :
    List StockReplenishLine → Except FulfillmentError Unit
  | [] => .ok ()
  | line :: rest =>
      match itemOf items line.productCode with
      | none => .error (.unknownStockItem companyCode line.productCode)
      | some _ => assertKnownProducts companyCode items rest

/-- Add the units of every line to its item. -/
def replenishLines : List StockItem → List StockReplenishLine → List StockItem
  | items, [] => items
  | items, line :: rest =>
      replenishLines
        (items.map fun item =>
          if item.productCode = line.productCode then item.replenish line.units
          else item)
        rest

def stockView (item : StockItem) : StockView :=
  { companyCode := item.companyCode
    productCode := item.productCode
    units := item.units
    reservedUnits := item.reservedUnits
    availableUnits := item.availableUnits
    lowStockThreshold := item.lowStockThreshold }

/-- `ReplenishStockHandler.execute`: all lines or none, and no fact. -/
def replenish (db : FulfillmentDb) (request : StockReplenishRequest) :
    Except FulfillmentError (FulfillmentDb × FulfillmentReply) := do
  let productCodes := request.lines.map StockReplenishLine.productCode
  let items ← db.lockByProductCodes request.companyCode productCodes
  assertKnownProducts request.companyCode items request.lines
  let items' := replenishLines items request.lines
  let views :=
    (productCodes.eraseDups.filterMap (itemOf items')).map stockView
  .ok (db.saveAll items', .replenished views)

end FulfillmentDb

end OrderToCash.Fulfillment
