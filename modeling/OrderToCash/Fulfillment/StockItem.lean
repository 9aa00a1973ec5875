import OrderToCash.Checked.Except
import OrderToCash.Contracts.Requests

/-!
# Stock items and their reservations

The stock aggregate: the counters of one product of one company together with
the reservations loaded with it, which are those of the order being handled.
An operation that is refused changes nothing.
-/

namespace OrderToCash.Fulfillment

open OrderToCash.Contracts
open OrderToCash.Kernel

inductive ReservationStatus
  | reserved
  | released
  | consumed
deriving DecidableEq, Repr

structure Reservation where
  id : UniqueId
  orderReference : OrderNumber
  companyCode : String
  retailerCode : String
  productCode : String
  units : Quantity
  status : ReservationStatus
deriving DecidableEq, Repr

/-- Everything a Fulfillment request can fail with. -/
inductive FulfillmentError
  | insufficientStock (productCode : String) (requested : Quantity)
      (available : Int)
  | reservationTerminal (reservation : UniqueId) (status : ReservationStatus)
      (attempted : ReservationStatus)
  | invalidStockItemSnapshot (item : UniqueId)
  | noKnownStockItem (order : OrderNumber)
  | unknownStockItem (companyCode : String) (productCode : String)
  | concurrentReservationChange (order : OrderNumber)
  | noReservedStockForDespatch (order : OrderNumber)
  | consumedWithoutDespatch (order : OrderNumber)
  | emptyDespatchLines (order : OrderNumber)
  | duplicateDespatch (order : OrderNumber)
deriving DecidableEq, Repr

/-- The code an error is answered with. -/
def FulfillmentError.rpcErrorCode : FulfillmentError → RpcErrorCode
  | .noKnownStockItem _ => .notFound
  | .unknownStockItem _ _ => .notFound
  | .reservationTerminal _ _ _ => .preconditionFailed
  | .noReservedStockForDespatch _ => .preconditionFailed
  | .concurrentReservationChange _ => .conflict
  | .insufficientStock _ _ _ => .domainError
  | .invalidStockItemSnapshot _ => .domainError
  | .emptyDespatchLines _ => .domainError
  | .consumedWithoutDespatch _ => .internalError
  | .duplicateDespatch _ => .internalError

/-- The stock aggregate, with the facts it has not published yet. -/
structure StockItem where
  id : UniqueId
  companyCode : String
  productCode : String
  units : Int
  reservedUnits : Int
  lowStockThreshold : Int
  reservations : List Reservation
  domainEvents : List Fact
deriving DecidableEq, Repr

/-- The units of a list of reservations. -/
def unitsOf (reservations : List Reservation) : Int :=
  (reservations.map fun reservation => (reservation.units.value : Int)).sum

/-- The reservation is the order's and still reserved. -/
def Reservation.IsReservedBy (order : OrderNumber) (reservation : Reservation) :
    Bool :=
  reservation.orderReference = order ∧ reservation.status = .reserved

/-- Move a reservation of the order out of `reserved`. -/
def Reservation.moveTo (order : OrderNumber) (status : ReservationStatus)
    (reservation : Reservation) : Reservation :=
  if reservation.IsReservedBy order then
    { reservation with status := status }
  else
    reservation

namespace StockItem

/-- Rebuild a stored item; counters that violate the stock invariant are
refused. -/
def reconstitute (item : StockItem) : Except FulfillmentError StockItem :=
  if item.units < 0 ∨ item.reservedUnits < 0 then
    .error (.invalidStockItemSnapshot item.id)
  else if item.reservedUnits > item.units then
    .error (.invalidStockItemSnapshot item.id)
  else
    .ok { item with domainEvents := [] }

def availableUnits (item : StockItem) : Int :=
  item.units - item.reservedUnits

/-- Create one reservation, if the units are available. -/
def reserve (item : StockItem) (reservationId : UniqueId) (order : OrderNumber)
    (retailerCode : String) (units : Quantity) :
    Except FulfillmentError (StockItem × Reservation) :=
  if item.reservedUnits + units.value > item.units then
    .error (.insufficientStock item.productCode units item.availableUnits)
  else
    let reservation : Reservation :=
      { id := reservationId
        orderReference := order
        companyCode := item.companyCode
        retailerCode := retailerCode
        productCode := item.productCode
        units := units
        status := .reserved }
    .ok
      ({ item with
          reservedUnits := item.reservedUnits + units.value
          reservations := item.reservations ++ [reservation] },
        reservation)

/-- Release the order's reserved reservations on this item; refused where one of
them is consumed. -/
def release (item : StockItem) (order : OrderNumber) :
    Except FulfillmentError (StockItem × List Reservation) :=
  let matching := item.reservations.filter (·.orderReference = order)
  match matching.find? (·.status = .consumed) with
  | some consumed =>
      .error (.reservationTerminal consumed.id .consumed .released)
  | none =>
      let toRelease := matching.filter (·.status = .reserved)
      if toRelease = [] then
        .ok (item, [])
      else
        .ok
          ({ item with
              reservedUnits := item.reservedUnits - unitsOf toRelease
              reservations := item.reservations.map (·.moveTo order .released) },
            toRelease.map (·.moveTo order .released))

/-- Consume the order's reserved reservations on this item; refused where one of
them is released. -/
def consume (item : StockItem) (order : OrderNumber) :
    Except FulfillmentError (StockItem × List Reservation) :=
  let matching := item.reservations.filter (·.orderReference = order)
  match matching.find? (·.status = .released) with
  | some released =>
      .error (.reservationTerminal released.id .released .consumed)
  | none =>
      let toConsume := matching.filter (·.status = .reserved)
      if toConsume = [] then
        .ok (item, [])
      else
        .ok
          ({ item with
              units := item.units - unitsOf toConsume
              reservedUnits := item.reservedUnits - unitsOf toConsume
              reservations := item.reservations.map (·.moveTo order .consumed) },
            toConsume.map (·.moveTo order .consumed))

def replenish (item : StockItem) (quantity : Quantity) : StockItem :=
  { item with units := item.units + quantity.value }

/-- Append an order-scoped fact to the item that carries it. -/
def recordOrderFact (item : StockItem) (fact : Fact) : StockItem :=
  { item with domainEvents := item.domainEvents ++ [fact] }

end StockItem

end OrderToCash.Fulfillment
