import Mathlib.Algebra.BigOperators.Group.List.Basic
import Mathlib.Data.List.Dedup
import OrderToCash.Fulfillment.Ledger

/-!
# One order in Fulfillment

The reservations, the despatch advices and the facts of one order, and the
moves a committed request of the order makes on them.  Requests of other orders
leave them alone, so the moves are all that can happen to an order.
-/

namespace OrderToCash.Fulfillment

open OrderToCash.Contracts
open OrderToCash.Kernel
open OrderToCash.Transition

/-- The part of the database that belongs to one order. -/
structure OrderStock where
  reservations : List ReservationRow
  despatches : List DespatchAdvice
  facts : List Fact
deriving DecidableEq, Repr

def FulfillmentDb.orderStock (db : FulfillmentDb) (order : OrderNumber) :
    OrderStock :=
  { reservations := db.reservationsOf order
    despatches := db.despatches.filter (·.orderReference = order)
    facts := db.outbox.filter (·.orderReference = order) }

/-- The order a request is about; a replenishment is about none. -/
def FulfillmentRequest.order? : FulfillmentRequest → Option OrderNumber
  | .stockReserve request => some request.orderReference
  | .stockRelease request => some request.orderReference
  | .despatchCreate request => some request.orderReference
  | .stockReplenish _ => none

namespace OrderStock

/-- The status of the order's first reservation; none before a reservation. -/
def phase (stock : OrderStock) : Option ReservationStatus :=
  stock.reservations.head?.map fun row => row.reservation.status

/-- The stock rows the order's reservations point at. -/
def stockIds (stock : OrderStock) : List UniqueId :=
  (stock.reservations.map ReservationRow.stockId).dedup

/-- All reservations of the order have one status. -/
def Uniform (stock : OrderStock) : Prop :=
  ∀ row ∈ stock.reservations, stock.phase = some row.reservation.status

def recorded (stock : OrderStock) (fact : Fact) : OrderStock :=
  { stock with facts := stock.facts ++ [fact] }

/-- The order with all its reservations in one status. -/
def withStatus (stock : OrderStock) (status : ReservationStatus) : OrderStock :=
  { stock with
    reservations := stock.reservations.map fun row =>
      { row with reservation := { row.reservation with status := status } } }

def emitted (stock : OrderStock) (eventType : EventType) : Nat :=
  stock.facts.countP (·.eventType = eventType)

@[simp]
theorem emitted_recorded (stock : OrderStock) (fact : Fact)
    (eventType : EventType) :
    (stock.recorded fact).emitted eventType =
      stock.emitted eventType + if fact.eventType = eventType then 1 else 0 := by
  simp [emitted, recorded]

/-- The facts of an order depend on nothing but its facts. -/
theorem emitted_congr {stock stock' : OrderStock} (same : stock'.facts = stock.facts)
    (eventType : EventType) : stock'.emitted eventType = stock.emitted eventType := by
  rw [emitted, emitted, same]

/-- The units of a product a despatch advice ships. -/
def despatchedUnits (despatch : DespatchAdvice) (productCode : String) : Int :=
  ((despatch.lines.filter (·.productCode = productCode)).map fun line =>
    (line.units.value : Int)).sum

/-- The units of a product the order has reservations for. -/
def reservationUnits (stock : OrderStock) (productCode : String) : Int :=
  unitsOf ((stock.reservations.map ReservationRow.reservation).filter
    (·.productCode = productCode))

/-- What a committed request of the order does to it. -/
inductive Move (stock : OrderStock) : FulfillmentRequest → OrderStock → Prop
  | reserveRepeated (request : StockReserveRequest)
      (existing : stock.reservations ≠ []) :
      Move stock (.stockReserve request) stock
  | rejected (request : StockReserveRequest) (payload : StockRejectedPayload)
      (first : stock.reservations = [])
      (ofOrder : payload.orderReference = request.orderReference) :
      Move stock (.stockReserve request)
        (stock.recorded (.stockRejected payload))
  | reserved (request : StockReserveRequest) (payload : StockReservedPayload)
      (rows : List ReservationRow) (first : stock.reservations = [])
      (something : rows ≠ [])
      (allReserved : ∀ row ∈ rows, row.reservation.status = .reserved)
      (forLines : ∀ row ∈ rows,
        row.reservation.companyCode = request.companyCode ∧
          row.reservation.productCode ∈
            request.lines.map StockReserveLine.productCode)
      (ofOrder : payload.orderReference = request.orderReference) :
      Move stock (.stockReserve request)
        ({ stock with reservations := rows }.recorded (.stockReserved payload))
  | releaseRepeated (request : StockReleaseRequest)
      (already : stock.phase = some .released) :
      Move stock (.stockRelease request) stock
  | released (request : StockReleaseRequest) (payload : StockReleasedPayload)
      (held : stock.phase = some .reserved)
      (ofOrder : payload.orderReference = request.orderReference)
      (sameReason : payload.reason = request.reason) :
      Move stock (.stockRelease request)
        ((stock.withStatus .released).recorded (.stockReleased payload))
  | despatchRepeated (request : DespatchCreateRequest)
      (already : stock.phase = some .consumed) :
      Move stock (.despatchCreate request) stock
  | despatched (request : DespatchCreateRequest) (despatch : DespatchAdvice)
      (payload : OrderDespatchedPayload) (held : stock.phase = some .reserved)
      (noDespatch : stock.despatches = [])
      (ofOrder : payload.orderReference = request.orderReference)
      (units : ∀ productCode, despatchedUnits despatch productCode =
        stock.reservationUnits productCode) :
      Move stock (.despatchCreate request)
        ({ stock.withStatus .consumed with
            despatches := stock.despatches ++ [despatch] }.recorded
          (.orderDespatched payload))

end OrderStock

/-! ## Requests of other orders -/

namespace FulfillmentDb

theorem orderStock_recorded {db : FulfillmentDb} (fact : Fact)
    {order : OrderNumber} (ofOrder : fact.orderReference = order) :
    (db.recorded fact).orderStock order =
      (db.orderStock order).recorded fact := by
  simp [orderStock, recorded, OrderStock.recorded, ofOrder, reservationsOf]

theorem orderStock_recorded_of_other {db : FulfillmentDb} (fact : Fact)
    {order : OrderNumber} (ofOther : fact.orderReference ≠ order) :
    (db.recorded fact).orderStock order = db.orderStock order := by
  simp [orderStock, recorded, ofOther, reservationsOf]

theorem isOf_settleRow (order settled : OrderNumber) (selected : UniqueId → Bool)
    (status : ReservationStatus) (row : ReservationRow) :
    (settleRow settled selected status row).IsOf order ↔ row.IsOf order := by
  have fields := Reservation.moveTo_fields settled status row.reservation
  unfold settleRow ReservationRow.IsOf
  split
  · simp only [fields.2.1]
  · rfl

/-- The reservations of an order after a settlement are its settled ones. -/
theorem filter_map_settleRow (rows : List ReservationRow)
    (order settled : OrderNumber) (selected : UniqueId → Bool)
    (status : ReservationStatus) :
    (rows.map (settleRow settled selected status)).filter (·.IsOf order) =
      (rows.filter (·.IsOf order)).map (settleRow settled selected status) := by
  rw [List.filter_map]
  congr 1
  refine List.filter_congr fun row _ => ?_
  simp only [Function.comp_apply, isOf_settleRow]

/-- Settling one order leaves the reservations of another alone. -/
theorem settleRow_of_other {order settled : OrderNumber}
    (differs : settled ≠ order) (selected : UniqueId → Bool)
    (status : ReservationStatus) {row : ReservationRow}
    (ofOrder : row.IsOf order) : settleRow settled selected status row = row := by
  have notReserved : row.reservation.IsReservedBy settled = false := by
    rw [← Bool.not_eq_true, Reservation.isReservedBy_iff]
    rintro ⟨ofSettled, _⟩
    exact differs (ofSettled.symm.trans ofOrder)
  unfold settleRow
  rw [Reservation.moveTo_of_not_isReservedBy status notReserved]
  split <;> rfl

theorem map_settleRow_of_other {order settled : OrderNumber}
    (differs : settled ≠ order) (selected : UniqueId → Bool)
    (status : ReservationStatus) (rows : List ReservationRow) :
    (rows.filter (·.IsOf order)).map (settleRow settled selected status) =
      rows.filter (·.IsOf order) := by
  have unchanged : ∀ row ∈ rows.filter (·.IsOf order),
      settleRow settled selected status row = row := by
    intro row rowMem
    have ofOrder : row.IsOf order :=
      of_decide_eq_true (List.mem_filter.mp rowMem).2
    exact settleRow_of_other differs selected status ofOrder
  rw [List.map_congr_left unchanged, List.map_id']

theorem orderStock_afterReserve_of_other {db : FulfillmentDb}
    {request : StockReserveRequest} {order : OrderNumber}
    (differs : request.orderReference ≠ order) :
    (db.afterReserve request).orderStock order = db.orderStock order := by
  have none : (db.freshRows request).filter (·.IsOf order) = [] := by
    rw [List.filter_eq_nil_iff]
    intro row fresh ofOrder
    have ofRequest := (mem_freshRows fresh).1
    exact differs (ofRequest.symm.trans (of_decide_eq_true ofOrder))
  simp only [orderStock, afterReserve, reservationsOf, List.filter_append, none,
    List.append_nil]

theorem orderStock_afterRelease_of_other {db : FulfillmentDb}
    {released order : OrderNumber} (ids : List UniqueId)
    (differs : released ≠ order) :
    (db.afterRelease released ids).orderStock order = db.orderStock order := by
  simp only [orderStock, afterRelease, reservationsOf, filter_map_settleRow,
    map_settleRow_of_other differs]

theorem orderStock_afterDespatch_of_other {db : FulfillmentDb}
    {despatch : DespatchAdvice} {payload : OrderDespatchedPayload}
    {order : OrderNumber} (ids : List UniqueId)
    (events : despatch.domainEvents = [.orderDespatched payload])
    (samePayload : payload.orderReference = despatch.orderReference)
    (differs : despatch.orderReference ≠ order) :
    (db.afterDespatch despatch ids).orderStock order = db.orderStock order := by
  have factOfOther : (Fact.orderDespatched payload).orderReference ≠ order := by
    intro same
    exact differs (samePayload.symm.trans same)
  simp [orderStock, afterDespatch, afterConsume, reservationsOf,
    filter_map_settleRow, map_settleRow_of_other differs, events, factOfOther,
    differs]

end FulfillmentDb

namespace FulfillmentSystem

open FulfillmentDb

/-- A committed request leaves other orders alone. -/
theorem orderStock_of_other {db db' : FulfillmentDb} {call : FulfillmentCall}
    {reply : FulfillmentReply} {order : OrderNumber} (keyed : db.WellKeyed)
    (result : transaction db call = some (.ok (db', reply)))
    (ofOther : call.request.order? ≠ some order) :
    db'.orderStock order = db.orderStock order := by
  cases call with
  | stockReserve request =>
      have differs : request.orderReference ≠ order := fun same =>
        ofOther (congrArg some same)
      cases reserve_effect keyed (Option.some.inj result) with
      | repeated existing => rfl
      | rejected payload first short ofOrder =>
          exact orderStock_recorded_of_other _ fun same =>
            differs (ofOrder.symm.trans same)
      | reserved payload first served something ofOrder =>
          rw [orderStock_recorded_of_other (.stockReserved payload) fun same =>
            differs (ofOrder.symm.trans same)]
          exact orderStock_afterReserve_of_other differs
  | stockRelease request stockIds =>
      have differs : request.orderReference ≠ order := fun same =>
        ofOther (congrArg some same)
      cases release_effect keyed (Option.some.inj result) with
      | repeated noneConsumed nothing => rfl
      | released payload noneConsumed something ofOrder sameReason =>
          rw [orderStock_recorded_of_other (.stockReleased payload) fun same =>
            differs (ofOrder.symm.trans same)]
          exact orderStock_afterRelease_of_other stockIds differs
  | despatchLooked request => cases result
  | despatchCreate request stockIds =>
      have differs : request.orderReference ≠ order := fun same =>
        ofOther (congrArg some same)
      cases createDespatch_effect keyed (Option.some.inj result) with
      | repeated nothing consumed despatch found => rfl
      | created despatch payload noneReleased something absent ofOrder lines
          events payloadOfOrder =>
          exact orderStock_afterDespatch_of_other stockIds events
            (payloadOfOrder.trans ofOrder.symm) (ofOrder ▸ differs)
  | stockReplenish request =>
      obtain ⟨added, rfl⟩ := replenish_effect keyed (Option.some.inj result)
      rfl

end FulfillmentSystem

/-! ## Requests of the order -/

theorem unitsOf_perm {first second : List Reservation}
    (perm : first.Perm second) : unitsOf first = unitsOf second :=
  (perm.map _).sum_eq

namespace FulfillmentDb

/-- The order's reservations are on products of its one request. -/
def ServesOnly (db : FulfillmentDb) (order : OrderNumber) (companyCode : String)
    (lines : List StockReserveLine) : Prop :=
  ∀ row ∈ db.reservationsOf order,
    row.reservation.companyCode = companyCode ∧
      row.reservation.productCode ∈ lines.map StockReserveLine.productCode

theorem mem_reservationsOf {db : FulfillmentDb} {order : OrderNumber}
    {row : ReservationRow} :
    row ∈ db.reservationsOf order ↔ row ∈ db.reservations ∧ row.IsOf order := by
  rw [reservationsOf, List.mem_filter, decide_eq_true_eq]

/-- A request for the order's own lines repeats exactly when the order has
reservations. -/
theorem hasLocked_iff {db : FulfillmentDb} {request : StockReserveRequest}
    (serves : db.ServesOnly request.orderReference request.companyCode
      request.lines) :
    db.HasLocked request ↔ db.reservationsOf request.orderReference ≠ [] := by
  constructor
  · rintro ⟨row, stored, ofOrder, _⟩
    exact List.ne_nil_of_mem (mem_reservationsOf.mpr ⟨stored, ofOrder⟩)
  · intro existing
    obtain ⟨row, rowMem⟩ := List.exists_mem_of_ne_nil _ existing
    obtain ⟨stored, ofOrder⟩ := mem_reservationsOf.mp rowMem
    exact ⟨row, stored, ofOrder, serves row rowMem⟩

theorem mem_stockIdsOfOrder {db : FulfillmentDb} {order : OrderNumber}
    {row : ReservationRow} (rowMem : row ∈ db.reservationsOf order) :
    row.stockId ∈ db.stockIdsOfOrder order := by
  rw [stockIdsOfOrder, List.mem_dedup]
  exact List.mem_map_of_mem rowMem

/-- The fresh rows are on products of the request. -/
theorem forLines_of_mem_freshRows {db : FulfillmentDb}
    {request : StockReserveRequest} {row : ReservationRow}
    (fresh : row ∈ db.freshRows request) :
    row.reservation.companyCode = request.companyCode ∧
      row.reservation.productCode ∈
        request.lines.map StockReserveLine.productCode := by
  obtain ⟨_, _, ⟨owner, _, locked, _, company, product⟩, _⟩ := mem_freshRows fresh
  simp only [isLockedBy, IsLockedFor, decide_eq_true_eq] at locked
  exact ⟨company ▸ locked.1, product ▸ locked.2⟩

/-- On all the stock rows of an order of one status, the order has that status
and no other. -/
theorem hasOn_iff_phase {db : FulfillmentDb} {order : OrderNumber}
    (uniform : (db.orderStock order).Uniform) (status : ReservationStatus) :
    db.HasOn order (db.stockIdsOfOrder order) status ↔
      (db.orderStock order).phase = some status := by
  constructor
  · rintro ⟨row, stored, ofOrder, _, hasStatus⟩
    rw [← hasStatus]
    exact uniform row (mem_reservationsOf.mpr ⟨stored, ofOrder⟩)
  · intro phase
    have existing : db.reservationsOf order ≠ [] := by
      intro none
      simp [OrderStock.phase, orderStock, none] at phase
    obtain ⟨row, rowMem⟩ := List.exists_mem_of_ne_nil _ existing
    obtain ⟨stored, ofOrder⟩ := mem_reservationsOf.mp rowMem
    refine ⟨row, stored, ofOrder, mem_stockIdsOfOrder rowMem, ?_⟩
    have same := (uniform row rowMem).symm.trans phase
    exact Option.some.inj same

theorem phase_isSome_of_stockIds {db : FulfillmentDb} {order : OrderNumber}
    (some : db.stockIdsOfOrder order ≠ []) :
    (db.orderStock order).phase ≠ none := by
  intro none
  have noReservations : db.reservationsOf order = [] := by
    simpa [OrderStock.phase, orderStock] using none
  exact some (by simp [stockIdsOfOrder, noReservations])

/-- Settling all reserved reservations of an order takes it to the status. -/
theorem reservationsOf_settled {db : FulfillmentDb} {order : OrderNumber}
    (uniform : (db.orderStock order).Uniform)
    (held : (db.orderStock order).phase = some .reserved)
    (status : ReservationStatus) :
    (db.reservations.map
        (settleRow order (· ∈ db.stockIdsOfOrder order) status)).filter
          (·.IsOf order) =
      ((db.orderStock order).withStatus status).reservations := by
  rw [filter_map_settleRow]
  refine List.map_congr_left fun row rowMem => ?_
  have rowOf : row ∈ db.reservationsOf order := rowMem
  have isReserved : row.reservation.status = .reserved :=
    Option.some.inj ((uniform row rowOf).symm.trans held)
  have reserved : row.reservation.IsReservedBy order = true :=
    Reservation.isReservedBy_iff.mpr ⟨(mem_reservationsOf.mp rowOf).2, isReserved⟩
  rw [settleRow, if_pos (decide_eq_true (mem_stockIdsOfOrder rowOf)),
    Reservation.moveTo_of_isReservedBy status reserved]

/-- A load of all the stock rows of an order that is wholly reserved has the
order's reservations, in some order. -/
theorem reservedOver_perm {db : FulfillmentDb} {order : OrderNumber}
    (keyed : db.WellKeyed) (uniform : (db.orderStock order).Uniform)
    (held : (db.orderStock order).phase = some .reserved) :
    (reservedOver order
        (db.loadRows order (·.id ∈ db.stockIdsOfOrder order))).Perm
      ((db.reservationsOf order).map ReservationRow.reservation) := by
  have allReserved : ∀ item ∈
      db.loadRows order (·.id ∈ db.stockIdsOfOrder order),
      item.reservedBy order = item.reservations := by
    intro item itemMem
    rw [StockItem.reservedBy, List.filter_eq_self]
    intro reservation inItem
    obtain ⟨row, stored, ofOrder, same, _⟩ :=
      mem_loaded_iff.mp ⟨item, itemMem, inItem⟩
    have phase := uniform row (mem_reservationsOf.mpr ⟨stored, ofOrder⟩)
    rw [← same, Reservation.isReservedBy_iff]
    exact ⟨ofOrder, Option.some.inj (phase.symm.trans held)⟩
  have read : reservedOver order
      (db.loadRows order (·.id ∈ db.stockIdsOfOrder order)) =
      (((db.stock.filter (·.id ∈ db.stockIdsOfOrder order)).map
        StockRow.id).flatMap fun id =>
          (db.reservationsOf order).filter (·.stockId = id)).map
            ReservationRow.reservation := by
    rw [reservedOver, List.flatMap_congr allReserved, loadRows, List.flatMap_map,
      List.flatMap_map, List.map_flatMap]
    rfl
  have distinct : ((db.stock.filter (·.id ∈ db.stockIdsOfOrder order)).map
      StockRow.id).Nodup :=
    (List.filter_sublist.map _).nodup keyed.stockIds
  have all : (db.reservationsOf order).filter (·.stockId ∈
      (db.stock.filter (·.id ∈ db.stockIdsOfOrder order)).map StockRow.id) =
      db.reservationsOf order := by
    rw [List.filter_eq_self]
    intro row rowMem
    obtain ⟨stored, _⟩ := mem_reservationsOf.mp rowMem
    obtain ⟨owner, ownerMem, same, _⟩ := keyed.onStock row stored
    refine decide_eq_true (List.mem_map.mpr ⟨owner, ?_, same⟩)
    refine List.mem_filter.mpr ⟨ownerMem, decide_eq_true ?_⟩
    rw [same]
    exact mem_stockIdsOfOrder rowMem
  rw [read]
  have perm := db.reservationsOf_flatMap_perm order distinct
  rw [all] at perm
  exact perm.map _

/-- A despatch of an order that is wholly reserved ships, of each product, the
units the order has reserved. -/
theorem despatchedUnits_eq {db : FulfillmentDb} {order : OrderNumber}
    {despatch : DespatchAdvice} (keyed : db.WellKeyed)
    (uniform : (db.orderStock order).Uniform)
    (held : (db.orderStock order).phase = some .reserved)
    (lines : despatch.lines = despatchLinesOf order
      (db.loadRows order (·.id ∈ db.stockIdsOfOrder order)))
    (productCode : String) :
    OrderStock.despatchedUnits despatch productCode =
      (db.orderStock order).reservationUnits productCode := by
  have perm := (reservedOver_perm keyed uniform held).filter
    (·.productCode = productCode)
  have same := unitsOf_perm perm
  rw [OrderStock.reservationUnits, orderStock, ← same, OrderStock.despatchedUnits,
    lines, despatchLinesOf, List.filter_map, List.map_map]
  rfl

end FulfillmentDb

/-- What a call has read of the order agrees with the database, and a
reservation call is for the order's one request. -/
def FulfillmentCall.Ready (db : FulfillmentDb) (order : OrderNumber)
    (companyCode : String) (lines : List StockReserveLine) :
    FulfillmentCall → Prop
  | .stockReserve request => request.orderReference = order →
      request.companyCode = companyCode ∧ request.lines = lines
  | .stockRelease request stockIds => request.orderReference = order →
      stockIds = db.stockIdsOfOrder order ∧ stockIds ≠ []
  | .despatchLooked _ => True
  | .despatchCreate request stockIds => request.orderReference = order →
      stockIds = db.stockIdsOfOrder order ∧ stockIds ≠ []
  | .stockReplenish _ => True

namespace FulfillmentSystem

open FulfillmentDb

theorem move_of_reserve {db db' : FulfillmentDb} {request : StockReserveRequest}
    {reply : FulfillmentReply} (keyed : db.WellKeyed)
    (serves : db.ServesOnly request.orderReference request.companyCode request.lines)
    (result : db.reserve request = .ok (db', reply)) :
    (db.orderStock request.orderReference).Move (.stockReserve request)
      (db'.orderStock request.orderReference) := by
  have repeats := hasLocked_iff serves
  cases reserve_effect keyed result with
  | repeated existing => exact .reserveRepeated request (repeats.mp existing)
  | rejected payload first short payloadOf =>
      rw [orderStock_recorded (.stockRejected payload) payloadOf]
      have noReservations : db.reservationsOf request.orderReference = [] :=
        not_not.mp fun existing => first (repeats.mpr existing)
      exact .rejected request payload noReservations payloadOf
  | reserved payload first served something payloadOf =>
      have noReservations : db.reservationsOf request.orderReference = [] :=
        not_not.mp fun existing => first (repeats.mpr existing)
      have fresh : (db.freshRows request).filter
          (·.IsOf request.orderReference) = db.freshRows request := by
        rw [List.filter_eq_self]
        exact fun row rowMem => decide_eq_true (mem_freshRows rowMem).1
      have rows : (db.afterReserve request).orderStock request.orderReference =
          { db.orderStock request.orderReference with
            reservations := db.freshRows request } := by
        have before : db.reservations.filter
            (·.IsOf request.orderReference) = [] :=
          noReservations
        simp only [orderStock, afterReserve, reservationsOf,
          List.filter_append, before, fresh, List.nil_append]
      rw [orderStock_recorded (.stockReserved payload) payloadOf, rows]
      exact .reserved request payload _ noReservations something
        (fun row rowMem => (mem_freshRows rowMem).2.1)
        (fun row rowMem => forLines_of_mem_freshRows rowMem) payloadOf

theorem move_of_release {db db' : FulfillmentDb} {request : StockReleaseRequest}
    {reply : FulfillmentReply} (keyed : db.WellKeyed)
    (uniform : (db.orderStock request.orderReference).Uniform)
    (located : db.stockIdsOfOrder request.orderReference ≠ [])
    (result : db.release request (db.stockIdsOfOrder request.orderReference) =
      .ok (db', reply)) :
    (db.orderStock request.orderReference).Move (.stockRelease request)
      (db'.orderStock request.orderReference) := by
  have phaseOf := hasOn_iff_phase uniform
  cases release_effect keyed result with
  | repeated noneConsumed nothing =>
      apply OrderStock.Move.releaseRepeated request
      rw [phaseOf] at noneConsumed nothing
      have existing := phase_isSome_of_stockIds located
      cases phase : (db.orderStock request.orderReference).phase with
      | none => exact absurd phase existing
      | some status =>
          cases status with
          | reserved => exact absurd phase nothing
          | released => rfl
          | consumed => exact absurd phase noneConsumed
  | released payload noneConsumed something payloadOf sameReason =>
      rw [phaseOf] at something
      have rows : (db.afterRelease request.orderReference
          (db.stockIdsOfOrder request.orderReference)).orderStock
            request.orderReference =
          (db.orderStock request.orderReference).withStatus .released := by
        rw [orderStock, afterRelease, reservationsOf]
        simp only [reservationsOf_settled uniform something]
        rfl
      rw [orderStock_recorded (.stockReleased payload) payloadOf, rows]
      exact .released request payload something payloadOf sameReason

theorem move_of_despatch {db db' : FulfillmentDb} {request : DespatchCreateRequest}
    {reply : FulfillmentReply} (keyed : db.WellKeyed)
    (uniform : (db.orderStock request.orderReference).Uniform)
    (result : db.createDespatch request (db.stockIdsOfOrder request.orderReference) =
      .ok (db', reply)) :
    (db.orderStock request.orderReference).Move (.despatchCreate request)
      (db'.orderStock request.orderReference) := by
  have phaseOf := hasOn_iff_phase uniform
  cases createDespatch_effect keyed result with
  | repeated nothing consumed despatch found =>
      exact .despatchRepeated request ((phaseOf _).mp consumed)
  | created despatch payload noneReleased something absent despatchOf
      despatchLines events payloadOf =>
      rw [phaseOf] at something
      have noDespatch :
          (db.orderStock request.orderReference).despatches = [] := by
        rw [findByOrderReference, List.find?_eq_none] at absent
        exact List.filter_eq_nil_iff.mpr absent
      have rows : (db.afterDespatch despatch
          (db.stockIdsOfOrder request.orderReference)).orderStock
            request.orderReference =
          { (db.orderStock request.orderReference).withStatus .consumed with
            despatches := (db.orderStock request.orderReference).despatches ++
              [{ despatch with domainEvents := [] }] }.recorded
            (.orderDespatched payload) := by
        have factOf : (Fact.orderDespatched payload).orderReference =
            request.orderReference :=
          payloadOf
        rw [orderStock, afterDespatch, afterConsume, reservationsOf]
        simp only [despatchOf, reservationsOf_settled uniform something]
        simp [events, factOf, orderStock, OrderStock.recorded,
          OrderStock.withStatus]
      rw [rows]
      exact .despatched request { despatch with domainEvents := [] } payload
        something noDespatch payloadOf
        (despatchedUnits_eq keyed uniform something despatchLines)

/-- A committed request of the order makes one of the moves. -/
theorem move_of_order {db db' : FulfillmentDb} {call : FulfillmentCall}
    {reply : FulfillmentReply} {order : OrderNumber} {companyCode : String}
    {lines : List StockReserveLine} (keyed : db.WellKeyed)
    (uniform : (db.orderStock order).Uniform)
    (serves : db.ServesOnly order companyCode lines)
    (ready : call.Ready db order companyCode lines)
    (result : transaction db call = some (.ok (db', reply)))
    (ofOrder : call.request.order? = some order) :
    (db.orderStock order).Move call.request (db'.orderStock order) := by
  cases call with
  | stockReserve request =>
      cases Option.some.inj ofOrder
      rcases ready rfl with ⟨rfl, rfl⟩
      exact move_of_reserve keyed serves (Option.some.inj result)
  | stockRelease request stockIds =>
      cases Option.some.inj ofOrder
      rcases ready rfl with ⟨rfl, located⟩
      exact move_of_release keyed uniform located (Option.some.inj result)
  | despatchLooked request => cases result
  | despatchCreate request stockIds =>
      cases Option.some.inj ofOrder
      rcases ready rfl with ⟨rfl, _⟩
      exact move_of_despatch keyed uniform (Option.some.inj result)
  | stockReplenish request => cases ofOrder

end FulfillmentSystem

end OrderToCash.Fulfillment
