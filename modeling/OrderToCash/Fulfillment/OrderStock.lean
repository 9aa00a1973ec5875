import OrderToCash.Fulfillment.StockItem

/-!
# Order-scoped stock operations

Reserving, releasing and consuming the stock of one order over several stock
items.  A reservation is all or nothing and yields exactly one fact for the
order, carried by one of the items; a release yields one fact if it released
anything; a consumption yields the lines of the despatch advice.
-/

namespace OrderToCash.Fulfillment

open OrderToCash.Contracts
open OrderToCash.Kernel

/-- The item of a product among the loaded ones. -/
def itemOf (items : List StockItem) (productCode : String) : Option StockItem :=
  items.find? (·.productCode = productCode)

/-- The units all lines together request of a product. -/
def requestedTotal (lines : List StockReserveLine) (productCode : String) : Int :=
  ((lines.filter (·.productCode = productCode)).map fun line =>
    (line.units.value : Int)).sum

/-- What is missing for a line: everything of an unknown product, or the units
the product's lines request beyond what is available. -/
def shortageOf (items : List StockItem) (lines : List StockReserveLine)
    (line : StockReserveLine) : Option Shortage :=
  match itemOf items line.productCode with
  | none => some ⟨line.productCode, line.units, 0⟩
  | some item =>
      if requestedTotal lines line.productCode > item.availableUnits then
        some ⟨line.productCode, line.units, item.availableUnits⟩
      else
        none

def shortagesOf (items : List StockItem) (lines : List StockReserveLine) :
    List Shortage :=
  lines.filterMap (shortageOf items lines)

/-- Replace the item of the same product. -/
def replaceItem (items : List StockItem) (item : StockItem) : List StockItem :=
  items.map fun other =>
    if other.productCode = item.productCode then item else other

/-- Reserve every line in order, one reservation per line. -/
def reserveLines (order : OrderNumber) (retailerCode : String)
    (newId : Nat → UniqueId) :
    Nat → List StockItem → List StockReserveLine →
      Except FulfillmentError (List StockItem × List ReservationRef)
  | _, items, [] => .ok (items, [])
  | index, items, line :: rest =>
      match itemOf items line.productCode with
      | none => .error (.noKnownStockItem order)
      | some item => do
          let (item', reservation) ←
            item.reserve (newId index) order retailerCode line.units
          let (items', references) ←
            reserveLines order retailerCode newId (index + 1)
              (replaceItem items item') rest
          .ok (items',
            ⟨reservation.id, reservation.productCode, reservation.units⟩ ::
              references)

/-- Append a fact to the item of the carrier's product. -/
def recordOnCarrier (items : List StockItem) (carrier : StockItem) (fact : Fact) :
    List StockItem :=
  items.map fun item =>
    if item.productCode = carrier.productCode then item.recordOrderFact fact
    else item

inductive ReserveOrderOutcome
  | reserved (items : List StockItem) (reservations : List ReservationRef)
  | rejected (items : List StockItem) (shortages : List Shortage)
  /-- No line names a known product: there is no item to carry a fact. -/
  | withoutCarrier
deriving DecidableEq, Repr

/-- All or nothing: every line is checked first, and only if all can be served
are they reserved. -/
def reserveOrderStock (items : List StockItem) (request : StockReserveRequest)
    (newId : Nat → UniqueId) : Except FulfillmentError ReserveOrderOutcome :=
  let shortages := shortagesOf items request.lines
  let firstKnownItem :=
    request.lines.findSome? fun line => itemOf items line.productCode
  if shortages ≠ [] then
    match firstKnownItem with
    | none => .ok .withoutCarrier
    | some carrier =>
        let anyUnknown :=
          request.lines.any fun line => (itemOf items line.productCode).isNone
        let fact : Fact := .stockRejected
          { orderReference := request.orderReference
            companyCode := request.companyCode
            retailerCode := request.retailerCode
            shortages := shortages
            reason := if anyUnknown then .unknownProduct else .insufficientStock }
        .ok (.rejected (recordOnCarrier items carrier fact) shortages)
  else
    match firstKnownItem with
    | none => .ok .withoutCarrier
    | some carrier => do
        let (reservedItems, reservations) ←
          reserveLines request.orderReference request.retailerCode newId 0 items
            request.lines
        let fact : Fact := .stockReserved
          { orderReference := request.orderReference
            companyCode := request.companyCode
            retailerCode := request.retailerCode
            reservations := reservations }
        .ok (.reserved (recordOnCarrier reservedItems carrier fact) reservations)

/-- Release the order's reservations on every item; what was released, with the
item it was released on. -/
def releaseItems (order : OrderNumber) :
    List StockItem →
      Except FulfillmentError (List StockItem × List (StockItem × Reservation))
  | [] => .ok ([], [])
  | item :: rest => do
      let (item', released) ← item.release order
      let (rest', releasedOfRest) ← releaseItems order rest
      .ok (item' :: rest', released.map (item', ·) ++ releasedOfRest)

def reservationRef (reservation : Reservation) : ReservationRef :=
  ⟨reservation.id, reservation.productCode, reservation.units⟩

inductive ReleaseOrderOutcome
  | released (items : List StockItem) (released : List ReservationRef)
  | alreadyReleased
deriving DecidableEq, Repr

/-- Release an order; one fact, on the item of the first released reservation,
if anything was released. -/
def releaseOrderStock (items : List StockItem) (order : OrderNumber)
    (companyCode : String) (reason : StockReleaseReason) :
    Except FulfillmentError ReleaseOrderOutcome := do
  let (items', released) ← releaseItems order items
  match released with
  | [] => .ok .alreadyReleased
  | (carrier, first) :: _ =>
      let references := released.map fun entry => reservationRef entry.2
      let fact : Fact := .stockReleased
        { orderReference := order
          companyCode := companyCode
          retailerCode := first.retailerCode
          released := references
          reason := reason }
      .ok (.released (recordOnCarrier items' carrier fact) references)

/-- Consume the order's reservations on every item. -/
def consumeItems (order : OrderNumber) :
    List StockItem →
      Except FulfillmentError (List StockItem × List Reservation)
  | [] => .ok ([], [])
  | item :: rest => do
      let (item', consumed) ← item.consume order
      let (rest', consumedOfRest) ← consumeItems order rest
      .ok (item' :: rest', consumed ++ consumedOfRest)

/-- A despatch advice, with the facts it has not published yet. -/
structure DespatchAdvice where
  id : UniqueId
  despatchReference : Nat
  orderReference : OrderNumber
  companyCode : String
  retailerCode : String
  lines : List DespatchLine
  domainEvents : List Fact
deriving DecidableEq, Repr

/-- A despatch advice comes into being with its fact. -/
def DespatchAdvice.create (id : UniqueId) (despatchReference : Nat)
    (order : OrderNumber) (companyCode retailerCode : String)
    (lines : List DespatchLine) : Except FulfillmentError DespatchAdvice :=
  if lines = [] then
    .error (.emptyDespatchLines order)
  else
    .ok
      { id := id
        despatchReference := despatchReference
        orderReference := order
        companyCode := companyCode
        retailerCode := retailerCode
        lines := lines
        domainEvents :=
          [.orderDespatched
            { orderReference := order
              despatchReference := despatchReference
              companyCode := companyCode
              retailerCode := retailerCode
              lines := lines }] }

inductive CreateDespatchOutcome
  | created (items : List StockItem) (despatch : DespatchAdvice)
  | noReservations
deriving DecidableEq, Repr

/-- Consume the order's stock and create its despatch advice, one line for each
consumed reservation. -/
def createDespatchForOrder (items : List StockItem) (order : OrderNumber)
    (companyCode retailerCode : String) (despatchReference : Nat)
    (despatchId : UniqueId) : Except FulfillmentError CreateDespatchOutcome := do
  let (items', consumed) ← consumeItems order items
  let lines := consumed.map fun reservation =>
    (⟨reservation.productCode, reservation.units⟩ : DespatchLine)
  if lines = [] then
    .ok .noReservations
  else do
    let despatch ←
      DespatchAdvice.create despatchId despatchReference order companyCode
        retailerCode lines
    .ok (.created items' despatch)

end OrderToCash.Fulfillment
