import OrderToCash.Fulfillment.OrderStock
import OrderToCash.Table.Upsert

/-!
# The Fulfillment database

The stock rows, the reservation rows and the despatch advices, with the locked
loads and the upserts the repositories run on them.  The stock rows are listed
in the order of the index the locks are taken in.  Generated identifiers and
despatch numbers come from counters.
-/

namespace OrderToCash.Fulfillment

open OrderToCash.Checked
open OrderToCash.Contracts
open OrderToCash.Kernel
open OrderToCash.Table

/-- A row of `stock`. -/
structure StockRow where
  id : UniqueId
  companyCode : String
  productCode : String
  units : Int
  reservedUnits : Int
  lowStockThreshold : Int
deriving DecidableEq, Repr

/-- A row of `reservations`: a reservation and the stock row it points at. -/
structure ReservationRow where
  stockId : UniqueId
  reservation : Reservation
deriving DecidableEq, Repr

structure FulfillmentDb where
  stock : List StockRow
  reservations : List ReservationRow
  despatches : List DespatchAdvice
  outbox : List Fact
  nextId : Nat
  nextDespatchNumber : Nat
deriving DecidableEq, Repr

/-- The stock row points at, and the reservation is of, this order. -/
def ReservationRow.IsOf (order : OrderNumber) (row : ReservationRow) : Prop :=
  row.reservation.orderReference = order

instance (order : OrderNumber) (row : ReservationRow) : Decidable (row.IsOf order) :=
  inferInstanceAs (Decidable (_ = _))

namespace FulfillmentDb

/-! ## Loads -/

/-- The reservation rows of an order. -/
def reservationsOf (db : FulfillmentDb) (order : OrderNumber) :
    List ReservationRow :=
  db.reservations.filter (·.IsOf order)

/-- A stock row as an item, with the order's reservations on it. -/
def loadItem (db : FulfillmentDb) (order : OrderNumber) (row : StockRow) :
    StockItem :=
  { id := row.id
    companyCode := row.companyCode
    productCode := row.productCode
    units := row.units
    reservedUnits := row.reservedUnits
    lowStockThreshold := row.lowStockThreshold
    reservations :=
      ((db.reservationsOf order).filter (·.stockId = row.id)).map
        ReservationRow.reservation
    domainEvents := [] }

/-- Rebuild each row's item; the first violated invariant refuses the load. -/
def reconstituteAll : List StockItem → Except FulfillmentError (List StockItem)
  | [] => .ok []
  | item :: rest => do
      let item' ← item.reconstitute
      let rest' ← reconstituteAll rest
      .ok (item' :: rest')

/-- The map of the loaded items by product; a later item of the same product
takes the place of an earlier one. -/
def toItemMap (items : List StockItem) : List StockItem :=
  upsertAll StockItem.productCode (fun _ item => item) [] items

/-- Lock the rows of an order's products and load its reservations on them. -/
def lockForOrder (db : FulfillmentDb) (companyCode : String)
    (productCodes : List String) (order : OrderNumber) :
    Except FulfillmentError (List StockItem) := do
  let rows := db.stock.filter fun row =>
    row.companyCode = companyCode ∧ row.productCode ∈ productCodes
  let items ← reconstituteAll (rows.map (db.loadItem order))
  .ok (toItemMap items)

/-- The stock rows an order's reservations point at, read without a lock. -/
def stockIdsOfOrder (db : FulfillmentDb) (order : OrderNumber) : List UniqueId :=
  ((db.reservationsOf order).map ReservationRow.stockId).dedup

/-- Lock rows by identifier and load the order's reservations on them. -/
def lockByIdsForOrder (db : FulfillmentDb) (ids : List UniqueId)
    (order : OrderNumber) : Except FulfillmentError (List StockItem) := do
  let rows := db.stock.filter (·.id ∈ ids)
  let items ← reconstituteAll (rows.map (db.loadItem order))
  .ok (toItemMap items)

/-- Lock the rows of some products, loading no reservations. -/
def lockByProductCodes (db : FulfillmentDb) (companyCode : String)
    (productCodes : List String) : Except FulfillmentError (List StockItem) := do
  let rows := db.stock.filter fun row =>
    row.companyCode = companyCode ∧ row.productCode ∈ productCodes
  let items ← reconstituteAll (rows.map fun row =>
    { db.loadItem ⟨0⟩ row with reservations := [] })
  .ok (toItemMap items)

def findByOrderReference (db : FulfillmentDb) (order : OrderNumber) :
    Option DespatchAdvice :=
  db.despatches.find? (·.orderReference = order)

/-! ## Writes -/

def toStockRow (item : StockItem) : StockRow :=
  { id := item.id
    companyCode := item.companyCode
    productCode := item.productCode
    units := item.units
    reservedUnits := item.reservedUnits
    lowStockThreshold := item.lowStockThreshold }

def toReservationRows (item : StockItem) : List ReservationRow :=
  item.reservations.map fun reservation => ⟨item.id, reservation⟩

/-- The columns a stock row's upsert sets. -/
def mergeStockRow (existing row : StockRow) : StockRow :=
  { existing with
    units := row.units
    reservedUnits := row.reservedUnits
    lowStockThreshold := row.lowStockThreshold }

/-- The columns a reservation row's upsert sets. -/
def mergeReservationRow (existing row : ReservationRow) : ReservationRow :=
  { existing with
    reservation :=
      { existing.reservation with
        status := row.reservation.status
        units := row.reservation.units } }

/-- Upsert the items and their loaded reservations, and record their facts. -/
def saveAll (db : FulfillmentDb) (items : List StockItem) : FulfillmentDb :=
  { db with
    stock :=
      upsertAll StockRow.id mergeStockRow db.stock (items.map toStockRow)
    reservations :=
      upsertAll (fun row => row.reservation.id) mergeReservationRow
        db.reservations (items.flatMap toReservationRows)
    outbox := db.outbox ++ items.flatMap StockItem.domainEvents }

/-- Insert a despatch advice; its order reference is unique. -/
def saveDespatch (db : FulfillmentDb) (despatch : DespatchAdvice) :
    Except FulfillmentError FulfillmentDb :=
  if (db.findByOrderReference despatch.orderReference).isSome then
    .error (.duplicateDespatch despatch.orderReference)
  else
    .ok
      { db with
        despatches := db.despatches ++ [{ despatch with domainEvents := [] }]
        outbox := db.outbox ++ despatch.domainEvents }

end FulfillmentDb

end OrderToCash.Fulfillment
