import OrderToCash.Fulfillment.Arbitration
import OrderToCash.Saga.Delivery

/-!
# Fulfillment's side of the saga

What a step of Fulfillment does to one order, in the saga's terms: nothing, or
the reservation moves and the fact that tells of it is appended, for a request
that was under way.
-/

namespace OrderToCash.Saga

open OrderToCash.Contracts
open OrderToCash.Fulfillment
open OrderToCash.Kernel
open OrderToCash.Orders
open OrderToCash.Transition

/-- A transaction appends to the outbox. -/
theorem fulfillment_outbox_grows {db db' : FulfillmentDb} {call : FulfillmentCall}
    {reply : FulfillmentReply} (keyed : db.WellKeyed)
    (result : FulfillmentSystem.transaction db call = some (.ok (db', reply))) :
    ∃ new, db'.outbox = db.outbox ++ new := by
  cases call with
  | stockReserve request =>
      cases FulfillmentDb.reserve_effect keyed (Option.some.inj result) with
      | repeated => exact ⟨[], (List.append_nil _).symm⟩
      | rejected payload => exact ⟨[.stockRejected payload], rfl⟩
      | reserved payload => exact ⟨[.stockReserved payload], rfl⟩
  | stockRelease request stockIds =>
      cases FulfillmentDb.release_effect keyed (Option.some.inj result) with
      | repeated => exact ⟨[], (List.append_nil _).symm⟩
      | released payload => exact ⟨[.stockReleased payload], rfl⟩
  | despatchLooked request => cases result
  | despatchCreate request stockIds =>
      cases FulfillmentDb.createDespatch_effect keyed (Option.some.inj result) with
      | repeated => exact ⟨[], (List.append_nil _).symm⟩
      | created despatch => exact ⟨despatch.domainEvents, rfl⟩
  | stockReplenish request =>
      rcases FulfillmentDb.replenish_effect keyed (Option.some.inj result) with
        ⟨added, rfl⟩
      exact ⟨[], (List.append_nil _).symm⟩

/-- What a request does to the reservation of its order, and the fact it emits. -/
inductive StockMove (order : OrderNumber) (requested : FulfillmentRequest → Prop) :
    Option ReservationStatus → Option ReservationStatus → List SagaFact → Prop
  | unchanged (phase : Option ReservationStatus) :
      StockMove order requested phase phase []
  | reserved (request : StockReserveRequest)
      (isRequested : requested (.stockReserve request))
      (ofOrder : request.orderReference = order) :
      StockMove order requested none (some .reserved) [.stockReserved]
  | rejected (request : StockReserveRequest)
      (isRequested : requested (.stockReserve request))
      (ofOrder : request.orderReference = order) :
      StockMove order requested none none [.stockRejected]
  | released (request : StockReleaseRequest)
      (isRequested : requested (.stockRelease request))
      (ofOrder : request.orderReference = order) :
      StockMove order requested (some .reserved) (some .released)
        [.stockReleased request.reason]
  | despatched (request : DespatchCreateRequest)
      (isRequested : requested (.despatchCreate request))
      (ofOrder : request.orderReference = order) :
      StockMove order requested (some .reserved) (some .consumed) [.orderDespatched]

/-- The move of a committed request, by what it appended. -/
theorem stockMove_of_move {stock stock' : OrderStock} {request : FulfillmentRequest}
    {order : OrderNumber} {requested : FulfillmentRequest → Prop}
    (moved : stock.Move request stock') (isRequested : requested request)
    (ofOrder : request.order? = some order) {new : List Fact}
    (grown : stock'.facts = stock.facts ++ new) :
    StockMove order requested stock.phase stock'.phase (new.filterMap sagaFact?) := by
  have unchanged : stock'.facts = stock.facts → new = [] := by
    intro same
    rw [same] at grown
    exact List.self_eq_append_right.mp grown
  have appended : ∀ fact, stock'.facts = stock.facts ++ [fact] → new = [fact] := by
    intro fact same
    rw [same] at grown
    exact (List.append_cancel_left grown).symm
  cases moved with
  | reserveRepeated | releaseRepeated | despatchRepeated =>
      rw [unchanged rfl]
      exact .unchanged _
  | rejected reserve payload first payloadOf =>
      rw [appended _ rfl]
      change StockMove order requested stock.phase stock.phase [.stockRejected]
      rw [OrderStock.phase_eq_none_iff.mpr first]
      exact .rejected reserve isRequested (Option.some.inj ofOrder)
  | reserved reserve payload rows first something allReserved forLines payloadOf =>
      rw [appended _ rfl, OrderStock.phase_eq_none_iff.mpr first]
      have phase : OrderStock.phase { stock with reservations := rows } =
          some .reserved :=
        OrderStock.phase_of_allReserved something allReserved
      change StockMove order requested none
        (OrderStock.phase { stock with reservations := rows }) [.stockReserved]
      rw [phase]
      exact .reserved reserve isRequested (Option.some.inj ofOrder)
  | released release payload held payloadOf sameReason =>
      rw [appended _ rfl, held]
      have phase : (stock.withStatus .released).phase = some .released :=
        OrderStock.phase_withStatus .released (by simp [held])
      change StockMove order requested (some .reserved)
        (stock.withStatus .released).phase [.stockReleased payload.reason]
      rw [phase, sameReason]
      exact .released release isRequested (Option.some.inj ofOrder)
  | despatched despatch advice payload held noDespatch payloadOf units =>
      rw [appended _ rfl, held]
      have phase : (stock.withStatus .consumed).phase = some .consumed :=
        OrderStock.phase_withStatus .consumed (by simp [held])
      change StockMove order requested (some .reserved)
        (stock.withStatus .consumed).phase [.orderDespatched]
      rw [phase]
      exact .despatched despatch isRequested (Option.some.inj ofOrder)

/-- What a step of Fulfillment does to an order that is arbitrated. -/
theorem stock_step {order : OrderNumber} {companyCode : String}
    {lines : List StockReserveLine} {system system' : FulfillmentSystem}
    {action : FulfillmentAction}
    (arbitrated : system.Arbitrated order companyCode lines)
    (stepped : FulfillmentSystem.step system action = some system') :
    ∃ new, system'.db.outbox = system.db.outbox ++ new ∧
      StockMove order (fun request => ∃ call ∈ system.calls, call.request = request)
        (system.db.orderStock order).phase (system'.db.orderStock order).phase
        (new.filterMap (sagaReading order).read) := by
  cases FulfillmentSystem.step_change stepped with
  | committed index call db reply found result =>
      have callMem := List.mem_of_getElem? found
      rcases fulfillment_outbox_grows arbitrated.sound.keyed result with ⟨new, grown⟩
      have facts : (db.orderStock order).facts =
          (system.db.orderStock order).facts ++
            new.filter (·.orderReference = order) := by
        change db.outbox.filter _ = system.db.outbox.filter _ ++ _
        rw [grown, List.filter_append]
      refine ⟨new, grown, ?_⟩
      rw [filterMap_read]
      change StockMove order _ _ (db.orderStock order).phase _
      rcases FulfillmentSystem.orderStock_transaction arbitrated callMem result with
        ⟨_, same⟩ | ⟨ofOrder, moved⟩
      · rw [same] at facts ⊢
        rw [List.self_eq_append_right.mp facts]
        exact .unchanged _
      · exact stockMove_of_move moved ⟨call, callMem, rfl⟩ ofOrder facts
  | received | nothingToRelease | alreadyDespatched | nothingToDespatch | located
  | refused | aborted =>
      exact ⟨[], (List.append_nil _).symm, .unchanged _⟩

/-- The saga sees every fact a request appends. -/
theorem seen_of_stockMove {stock stock' : OrderStock} {request : FulfillmentRequest}
    (moved : stock.Move request stock')
    (seen : ∀ fact ∈ stock.facts, sagaFact? fact ≠ none) :
    ∀ fact ∈ stock'.facts, sagaFact? fact ≠ none := by
  cases moved with
  | reserveRepeated | releaseRepeated | despatchRepeated => exact seen
  | rejected | reserved | released | despatched =>
      intro fact factMem
      rcases List.mem_append.mp factMem with before | new
      · exact seen fact before
      · cases List.mem_singleton.mp new
        simp [sagaFact?]

/-- The saga sees every fact of an order that Fulfillment has appended. -/
theorem stockSeen_step {order : OrderNumber} {companyCode : String}
    {lines : List StockReserveLine} {system system' : FulfillmentSystem}
    {action : FulfillmentAction}
    (arbitrated : system.Arbitrated order companyCode lines)
    (stepped : FulfillmentSystem.step system action = some system')
    (seen : ∀ fact ∈ (system.db.orderStock order).facts, sagaFact? fact ≠ none) :
    ∀ fact ∈ (system'.db.orderStock order).facts, sagaFact? fact ≠ none := by
  cases FulfillmentSystem.step_change stepped with
  | committed index call db reply found result =>
      change ∀ fact ∈ (db.orderStock order).facts, _
      rcases FulfillmentSystem.orderStock_transaction arbitrated
        (List.mem_of_getElem? found) result with ⟨_, same⟩ | ⟨_, moved⟩
      · rw [same]
        exact seen
      · exact seen_of_stockMove moved seen
  | received | nothingToRelease | alreadyDespatched | nothingToDespatch | located
  | refused | aborted => exact seen

end OrderToCash.Saga
