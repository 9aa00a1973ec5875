import OrderToCash.Fulfillment.AllOrNothing
import OrderToCash.Fulfillment.Arbitration

/-!
# Reserved in full

A reservation that is granted sets aside every unit its lines request.  Nothing
that happens to the order afterwards changes how many units its reservations are
for, so whatever is shipped of the order is the whole of its one request.
-/

namespace OrderToCash.Fulfillment

open OrderToCash.Contracts
open OrderToCash.Kernel
open OrderToCash.Transition

/-! ## The units of fresh reservations -/

/-- The fresh reservations of a product are those on its item. -/
theorem unitsOf_filter_freshFor {order : OrderNumber} {retailerCode : String}
    {newId : Nat → UniqueId} (lines : List StockReserveLine) (item : StockItem)
    (productCode : String) :
    unitsOf ((freshFor order retailerCode newId 0 lines item).filter
        (·.productCode = productCode)) =
      if item.productCode = productCode then requestedTotal lines productCode
      else 0 := by
  have ofItem : ∀ reservation ∈ freshFor order retailerCode newId 0 lines item,
      reservation.productCode = item.productCode :=
    fun reservation fresh => (mem_freshFor fresh).2.2.2.1
  by_cases here : item.productCode = productCode
  · have all : (freshFor order retailerCode newId 0 lines item).filter
        (·.productCode = productCode) =
          freshFor order retailerCode newId 0 lines item :=
      List.filter_eq_self.mpr fun reservation fresh =>
        decide_eq_true ((ofItem reservation fresh).trans here)
    rw [all, if_pos here, unitsOf_freshFor, here]
  · have none : (freshFor order retailerCode newId 0 lines item).filter
        (·.productCode = productCode) = [] :=
      List.filter_eq_nil_iff.mpr fun reservation fresh selected =>
        here ((ofItem reservation fresh).symm.trans (of_decide_eq_true selected))
    rw [none, if_neg here, unitsOf_nil]

/-- Over items of different products, each product's lines are reserved once. -/
theorem unitsOf_filter_flatMap_freshFor {order : OrderNumber} {retailerCode : String}
    {newId : Nat → UniqueId} (lines : List StockReserveLine) {items : List StockItem}
    (distinct : (items.map StockItem.productCode).Nodup) (productCode : String) :
    unitsOf ((items.flatMap (freshFor order retailerCode newId 0 lines)).filter
        (·.productCode = productCode)) =
      if productCode ∈ items.map StockItem.productCode then
        requestedTotal lines productCode
      else 0 := by
  induction items with
  | nil => rfl
  | cons item rest inductionHypothesis =>
      rw [List.map_cons, List.nodup_cons] at distinct
      rw [List.flatMap_cons, List.filter_append, unitsOf_append,
        unitsOf_filter_freshFor, inductionHypothesis distinct.2, List.map_cons]
      by_cases here : item.productCode = productCode
      · subst here
        simp [distinct.1]
      · simp [here, Ne.symm here]

/-- Nothing is requested of a product without a line. -/
theorem requestedTotal_eq_zero {lines : List StockReserveLine} {productCode : String}
    (unrequested : productCode ∉ lines.map StockReserveLine.productCode) :
    requestedTotal lines productCode = 0 := by
  have none : lines.filter (·.productCode = productCode) = [] :=
    List.filter_eq_nil_iff.mpr fun line lineMem selected =>
      unrequested (List.mem_map.mpr ⟨line, lineMem, of_decide_eq_true selected⟩)
  rw [requestedTotal, none]
  rfl

namespace FulfillmentDb

/-- The fresh rows hold the reservations of the lines on the locked items. -/
theorem reservation_freshRows (db : FulfillmentDb) (request : StockReserveRequest) :
    (db.freshRows request).map ReservationRow.reservation =
      (db.loadRows request.orderReference (isLockedBy request)).flatMap
        (freshFor request.orderReference request.retailerCode db.newId 0
          request.lines) := by
  rw [freshRows, loadRows, List.map_flatMap, List.flatMap_map]
  simp only [List.map_map, Function.comp_def, List.map_id']
  rfl

/-- The reservations of a request that is served are for all it requests. -/
theorem unitsOf_freshRows {db : FulfillmentDb} (keyed : db.WellKeyed)
    {request : StockReserveRequest}
    (served : shortagesOf (db.loadRows request.orderReference (isLockedBy request))
      request.lines = []) (productCode : String) :
    unitsOf (((db.freshRows request).map ReservationRow.reservation).filter
        (·.productCode = productCode)) =
      requestedTotal request.lines productCode := by
  have distinct : ((db.loadRows request.orderReference (isLockedBy request)).map
      StockItem.productCode).Nodup := nodup_productCode_of_company keyed _ _ _
  rw [reservation_freshRows, unitsOf_filter_flatMap_freshFor request.lines distinct]
  by_cases requested : productCode ∈ request.lines.map StockReserveLine.productCode
  · rcases List.mem_map.mp requested with ⟨line, lineMem, rfl⟩
    rcases (shortagesOf_eq_nil_iff distinct).mp served line lineMem with
      ⟨item, itemMem, same, _⟩
    exact if_pos (List.mem_map.mpr ⟨item, itemMem, same⟩)
  · rw [requestedTotal_eq_zero requested, ite_self]

/-- Whatever the order has reservations for, its lines request. -/
def ReservesInFull (db : FulfillmentDb) (order : OrderNumber)
    (lines : List StockReserveLine) : Prop :=
  db.reservationsOf order ≠ [] → ∀ productCode,
    (db.orderStock order).reservationUnits productCode =
      requestedTotal lines productCode

end FulfillmentDb

/-! ## Every step keeps the units -/

namespace OrderStock

/-- Only a granted reservation changes the units an order has reserved. -/
theorem Move.reservationUnits {stock stock' : OrderStock}
    {request : FulfillmentRequest} (move : stock.Move request stock')
    (existing : stock.reservations ≠ []) (productCode : String) :
    stock'.reservations ≠ [] ∧
      stock'.reservationUnits productCode = stock.reservationUnits productCode := by
  cases move with
  | reserveRepeated | rejected | releaseRepeated | despatchRepeated =>
      exact ⟨existing, rfl⟩
  | reserved request payload rows first => exact absurd first existing
  | released request payload held =>
      exact ⟨by simpa [withStatus, recorded] using existing,
        reservationUnits_withStatus stock .released productCode⟩
  | despatched request despatch payload held =>
      exact ⟨by simpa [withStatus, recorded] using existing,
        reservationUnits_withStatus stock .consumed productCode⟩

/-- An order's first reservations are a reservation request's. -/
theorem Move.reserves_of_first {stock stock' : OrderStock}
    {request : FulfillmentRequest} (move : stock.Move request stock')
    (first : stock.reservations = []) (some : stock'.reservations ≠ []) :
    ∃ reserve, request = .stockReserve reserve := by
  have unreserved : stock.phase ≠ Option.some .reserved := by
    simp [phase_eq_none_iff.mpr first]
  cases move with
  | reserveRepeated reserve | rejected reserve | reserved reserve =>
      exact ⟨reserve, rfl⟩
  | releaseRepeated | despatchRepeated => exact absurd first some
  | released request payload held => exact absurd held unreserved
  | despatched request despatch payload held => exact absurd held unreserved

end OrderStock

namespace FulfillmentSystem

open FulfillmentDb

variable {order : OrderNumber} {companyCode : String} {lines : List StockReserveLine}

/-- The order's reservations after its first request is granted are the fresh
ones. -/
theorem reservationUnits_afterReserve {db : FulfillmentDb} (keyed : db.WellKeyed)
    {request : StockReserveRequest} (payload : StockReservedPayload)
    (none : db.reservationsOf request.orderReference = [])
    (served : shortagesOf (db.loadRows request.orderReference (isLockedBy request))
      request.lines = []) (productCode : String) :
    (((db.afterReserve request).recorded (.stockReserved payload)).orderStock
        request.orderReference).reservationUnits productCode =
      requestedTotal request.lines productCode := by
  have fresh : (db.freshRows request).filter (·.IsOf request.orderReference) =
      db.freshRows request :=
    List.filter_eq_self.mpr fun row rowMem => decide_eq_true (mem_freshRows rowMem).1
  have rows : ((db.afterReserve request).recorded
      (.stockReserved payload)).reservationsOf request.orderReference =
        db.freshRows request := by
    change (db.reservations ++ db.freshRows request).filter _ = _
    rw [List.filter_append, fresh]
    change db.reservationsOf request.orderReference ++ _ = _
    rw [none, List.nil_append]
  rw [OrderStock.reservationUnits, orderStock, rows]
  exact unitsOf_freshRows keyed served productCode

/-- A transaction that brings the order's reservations about reserves its
request in full. -/
theorem reservesInFull_transaction {system : FulfillmentSystem}
    {call : FulfillmentCall} {db : FulfillmentDb} {reply : FulfillmentReply}
    (arbitrated : system.Arbitrated order companyCode lines)
    (inFull : system.db.ReservesInFull order lines) (callMem : call ∈ system.calls)
    (result : transaction system.db call = some (.ok (db, reply))) :
    db.ReservesInFull order lines := by
  intro existing productCode
  rcases orderStock_transaction arbitrated callMem result with
    ⟨_, same⟩ | ⟨ofOrder, move⟩
  · have sameRows : db.reservationsOf order = system.db.reservationsOf order :=
      congrArg OrderStock.reservations same
    rw [same]
    exact inFull (sameRows ▸ existing) productCode
  · by_cases before : system.db.reservationsOf order = []
    · rcases move.reserves_of_first before existing with ⟨reserve, isReserve⟩
      cases call with
      | stockReserve request =>
          have ready := arbitrated.ready _ callMem (Option.some.inj ofOrder)
          have isOrder : request.orderReference = order := Option.some.inj ofOrder
          subst isOrder
          cases reserve_effect arbitrated.sound.keyed (Option.some.inj result) with
          | repeated | rejected => exact absurd before existing
          | reserved payload first served something payloadOf =>
              rw [reservationUnits_afterReserve arbitrated.sound.keyed payload before
                served, ready.2]
      | stockRelease | despatchLooked | despatchCreate | stockReplenish =>
          cases isReserve
    · rw [(move.reservationUnits before productCode).2]
      exact inFull before productCode

theorem reservesInFull_step {system system' : FulfillmentSystem}
    {action : FulfillmentAction} (arbitrated : system.Arbitrated order companyCode lines)
    (inFull : system.db.ReservesInFull order lines)
    (stepped : step system action = some system') :
    system'.db.ReservesInFull order lines := by
  cases step_change stepped with
  | committed index call db reply found result =>
      exact reservesInFull_transaction arbitrated inFull (List.mem_of_getElem? found)
        result
  | received | nothingToRelease | alreadyDespatched | nothingToDespatch | located
  | refused | aborted => exact inFull

theorem reservesInFull_initial (catalogue : StockCatalogue) (order : OrderNumber)
    (lines : List StockReserveLine) :
    (initial catalogue).db.ReservesInFull order lines :=
  fun existing => absurd rfl existing

end FulfillmentSystem

end OrderToCash.Fulfillment
