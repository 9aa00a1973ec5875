import OrderToCash.Orders.OrderReferences

/-!
# Replays of one request

Every call that carries one `requestId` and one body is answered with the same
order, provided none of them is refused by the stock check: a call that has
passed the lookup still goes through it, whatever has been committed since.
-/

namespace OrderToCash.Orders

open OrderToCash.Checked
open OrderToCash.Contracts
open OrderToCash.Kernel
open OrderToCash.Table
open OrderToCash.Transition

/-! ## What a body decides on its own -/

/-- Totals are computed or refused whatever reference they are for. -/
theorem computeOrderTotals_of_reference {order other : OrderNumber}
    {currency : String} {lines : List OrderLine} {totals : OrderTotals}
    (computed : computeOrderTotals order currency lines = .ok totals) :
    computeOrderTotals other currency lines = .ok totals := by
  simp only [computeOrderTotals, bind_eq_ok_iff, ite_error_eq_ok_iff] at computed ⊢
  exact computed

theorem sumAmounts_congr {lines others : List OrderLine}
    (same : lines.map (fun line => (line.quantity, line.unitPrice)) =
      others.map fun line => (line.quantity, line.unitPrice)) (sum : Money) :
    sumAmounts sum lines = sumAmounts sum others := by
  induction lines generalizing others sum with
  | nil =>
      cases others with
      | nil => rfl
      | cons other rest => cases same
  | cons line rest inductionHypothesis =>
      cases others with
      | nil => cases same
      | cons other others =>
          simp only [List.map_cons, List.cons.injEq, Prod.mk.injEq] at same
          rcases same with ⟨⟨quantity, unitPrice⟩, remaining⟩
          simp only [sumAmounts, quantity, unitPrice,
            inductionHypothesis remaining]

theorem sumDiscounts_congr {lines others : List OrderLine}
    (same : lines.map OrderLine.lineDiscount = others.map OrderLine.lineDiscount)
    (sum : Money) : sumDiscounts sum lines = sumDiscounts sum others := by
  induction lines generalizing others sum with
  | nil =>
      cases others with
      | nil => rfl
      | cons other rest => cases same
  | cons line rest inductionHypothesis =>
      cases others with
      | nil => cases same
      | cons other others =>
          simp only [List.map_cons, List.cons.injEq] at same
          rcases same with ⟨lineDiscount, remaining⟩
          simp only [sumDiscounts, lineDiscount, inductionHypothesis remaining]

/-- The identifiers the lines get do not matter to the totals. -/
theorem computeOrderTotals_createLines (order : OrderNumber) (currency : String)
    (newId otherId : Nat → UniqueId) (lines : List PlaceOrderLineInput) :
    computeOrderTotals order currency (createLines newId lines) =
      computeOrderTotals order currency (createLines otherId lines) := by
  have amounts : ∀ sum, sumAmounts sum (createLines newId lines) =
      sumAmounts sum (createLines otherId lines) := by
    apply sumAmounts_congr
    apply List.ext_getElem <;> simp [createLines]
  have discounts : ∀ sum, sumDiscounts sum (createLines newId lines) =
      sumDiscounts sum (createLines otherId lines) := by
    apply sumDiscounts_congr
    apply List.ext_getElem <;> simp [createLines]
  simp only [computeOrderTotals, amounts, discounts]

theorem assertLineCurrencies_of_reference {order other : OrderNumber}
    {currency : String} {lines : List PlaceOrderLineInput}
    (accepted : assertLineCurrencies order currency lines = .ok ()) :
    assertLineCurrencies other currency lines = .ok () := by
  induction lines with
  | nil => rfl
  | cons line rest inductionHypothesis =>
      simp only [assertLineCurrencies, ite_error_eq_ok_iff] at accepted ⊢
      exact ⟨accepted.1, accepted.2.1, inductionHypothesis accepted.2.2⟩

/-- A body that makes an order under one reference makes one under any. -/
theorem createOrder_isOk {reference : ReferenceData}
    {command : PlaceOrderCommand} {number other : OrderNumber}
    {firstLineId firstOther : Nat} {order : Order}
    (created : createOrder reference command number firstLineId = .ok order) :
    ∃ order', createOrder reference command other firstOther = .ok order' := by
  simp only [createOrder, bind_eq_ok_iff, mapError_eq_ok_iff] at created ⊢
  rcases created with ⟨lines, inputs, placed⟩
  simp only [Order.place, ite_error_eq_ok_iff, bind_eq_ok_iff] at placed
  rcases placed with ⟨notEmpty, _, currencies, totals, computed, _⟩
  have sameTotals : computeOrderTotals other command.currency
      (createLines (fun index => ⟨firstOther + index⟩) lines) = .ok totals := by
    rw [computeOrderTotals_createLines other command.currency _
      (fun index => ⟨firstLineId + index⟩)]
    exact computeOrderTotals_of_reference computed
  exact ⟨_, lines, inputs, by
    simp only [Order.place, ite_error_eq_ok_iff, bind_eq_ok_iff]
    exact ⟨notEmpty, _, assertLineCurrencies_of_reference currencies, totals,
      sameTotals, rfl⟩⟩

/-- A body that is refused by every call that carries it. -/
inductive Refused (reference : ReferenceData) (command : PlaceOrderCommand) :
    Prop
  | discount (given : command.orderDiscount.getD 0 ≠ 0)
  | referenceData (error : PlaceOrderError)
      (incomplete : assertReferenceDataComplete reference command = .error error)
  | order (number : OrderNumber) (firstLineId : Nat) (error : PlaceOrderError)
      (refused : createOrder reference command number firstLineId =
        .error error)

/-! ## Stored orders -/

namespace OrderRow

/-- What a row written by a placement holds from then on. -/
structure Stored (row : OrderRow) : Prop where
  sound : Order.Sound ⟨row.props, []⟩
  lineIds : (row.props.lines.map OrderLine.id).Nodup

/-- A stored row is rebuilt as it is. -/
theorem Stored.reconstitute {row : OrderRow} (stored : row.Stored) :
    Order.reconstitute row.props = .ok ⟨row.props, []⟩ := by
  have ofCancelled : ¬ (row.props.status = .cancelled ∧
      row.props.cancellationReason = none) := by
    rintro ⟨cancelled, absent⟩
    have present := stored.sound.reason.mpr cancelled
    rw [absent] at present
    cases present
  have ofOther : ¬ (row.props.status ≠ .cancelled ∧
      row.props.cancellationReason ≠ none) := by
    rintro ⟨other, present⟩
    exact other (stored.sound.reason.mp (Option.isSome_iff_ne_none.mpr present))
  simp only [Order.reconstitute, if_neg stored.sound.lines, if_neg ofCancelled,
    if_neg ofOther]
  rw [stored.sound.totals]
  rfl

end OrderRow

theorem createLines_ids (firstLineId : Nat) (lines : List PlaceOrderLineInput) :
    ((createLines (fun index => ⟨firstLineId + index⟩) lines).map
      OrderLine.id).Nodup := by
  have ids : (createLines (fun index => ⟨firstLineId + index⟩) lines).map
      OrderLine.id = (List.range lines.length).map
        fun index => ⟨firstLineId + index⟩ := by
    apply List.ext_getElem <;> simp [createLines]
  rw [ids]
  apply List.Nodup.map _ List.nodup_range
  intro first second same
  have values := congrArg UniqueId.value same
  exact Nat.add_left_cancel values

/-- What a created order is before it is inserted. -/
theorem createOrder_eq_ok {reference : ReferenceData}
    {command : PlaceOrderCommand} {number : OrderNumber} {firstLineId : Nat}
    {order : Order}
    (created : createOrder reference command number firstLineId = .ok order)
    (orderId : UniqueId) (requestId : Option RequestId) :
    OrderRow.Stored ⟨orderId, requestId, order.props⟩ ∧
      order.props.orderReference = number ∧
      order.domainEvents = [orderPlacedEvent order.props] := by
  simp only [createOrder, bind_eq_ok_iff, mapError_eq_ok_iff] at created
  rcases created with ⟨lines, _, placed⟩
  have sound := Order.sound_of_place placed
  rcases Order.place_eq_ok placed with
    ⟨orderReference, _, _, _, createdLines, _, _, events⟩
  constructor
  · constructor
    · exact sound.of_props rfl
    · rw [createdLines]
      exact createLines_ids firstLineId lines
  · exact ⟨orderReference, events⟩

/-- The order whose placement a fact announces. -/
def placedReference? : Fact → Option OrderNumber
  | .orderPlaced payload => some payload.orderReference
  | _ => none

/-- A transition appends at most the fact it is given. -/
theorem transitionTo_events {order order' : Order} {target : OrderStatus}
    {reason : Option CancellationReason}
    {buildEvent : Option (OrderProps → Fact)}
    (unplaced : ∀ build ∈ buildEvent, ∀ props,
      placedReference? (build props) = none)
    (accepted : order.transitionTo target reason buildEvent = .ok order') :
    ∃ facts, order'.domainEvents = order.domainEvents ++ facts ∧
      ∀ fact ∈ facts, placedReference? fact = none := by
  unfold Order.transitionTo at accepted
  split at accepted
  · cases accepted
  · split at accepted
    · rename_i _ build _
      cases accepted
      exact ⟨[build _], rfl, by
        intro fact member
        rw [List.mem_singleton.mp member]
        exact unplaced build rfl _⟩
    · cases accepted
      exact ⟨[], (List.append_nil _).symm, by simp⟩

/-- What Orders' other transactions do to an order: its status and its reason
move, and no placement is announced again. -/
theorem perform_keepsLines {order order' : Order} {operation : OrderOperation}
    (keepsLines : operation.KeepsLines = true)
    (performed : order.perform operation = .ok order') :
    (∃ status reason, order'.props =
        { order.props with status := status, cancellationReason := reason }) ∧
      ∃ facts, order'.domainEvents = order.domainEvents ++ facts ∧
        ∀ fact ∈ facts, placedReference? fact = none := by
  have moved : ∀ {target buildEvent},
      (∀ build ∈ buildEvent, ∀ props, placedReference? (build props) = none) →
      order.transitionTo target none buildEvent = .ok order' →
      (∃ status reason, order'.props =
          { order.props with status := status, cancellationReason := reason }) ∧
        ∃ facts, order'.domainEvents = order.domainEvents ++ facts ∧
          ∀ fact ∈ facts, placedReference? fact = none := by
    intro target buildEvent unplaced accepted
    exact ⟨⟨_, _, (Order.transitionTo_eq_ok accepted).2⟩,
      transitionTo_events unplaced accepted⟩
  cases operation with
  | addLine newId input => cases keepsLines
  | removeLine lineId => cases keepsLines
  | changeLineQuantity lineId quantity => cases keepsLines
  | markStockReserved => exact moved (by simp) performed
  | approveCredit => exact moved (by simp) performed
  | confirm =>
      apply moved _ performed
      rintro build ⟨⟩ props
      rfl
  | markDespatched => exact moved (by simp) performed
  | markInvoiced => exact moved (by simp) performed
  | markPaid => exact moved (by simp) performed
  | complete =>
      apply moved _ performed
      rintro build ⟨⟩ props
      rfl
  | cancel reason compensationSteps =>
      simp only [Order.perform, Order.cancelUnchecked] at performed
      split at performed
      · cases performed
      · split at performed
        · cases performed
        · have props := (Order.cancel_eq_ok performed).2.2.2
          simp only [Order.cancel, ite_error_eq_ok_iff] at performed
          rcases performed with ⟨_, _, _, transitioned⟩
          constructor
          · exact ⟨_, _, props⟩
          · apply transitionTo_events _ transitioned
            rintro build ⟨⟩ otherProps
            rfl
  | recordSagaFailure input =>
      cases performed
      constructor
      · exact ⟨order.props.status, order.props.cancellationReason, rfl⟩
      · exact ⟨[orderSagaFailedEvent input order.props], rfl, by
          intro fact member
          rw [List.mem_singleton.mp member]
          rfl⟩

/-- A stored row written back after such an operation is stored, answers as
before, and keeps its keys. -/
theorem OrderRow.Stored.written {row : OrderRow} (stored : row.Stored)
    {operation : OrderOperation} (keepsLines : operation.KeepsLines = true)
    {saved : Order}
    (performed : Order.perform ⟨row.props, []⟩ operation = .ok saved) :
    OrdersDb.updateOrderRow row.props saved.props = saved.props ∧
      OrderRow.Stored { row with props := saved.props } ∧
      OrderRow.result { row with props := saved.props } = row.result ∧
      saved.props.orderReference = row.props.orderReference := by
  rcases perform_keepsLines keepsLines performed with ⟨⟨status, reason, props⟩, _⟩
  have sound : saved.Sound :=
    stored.sound.change (Order.change_of_perform performed)
  have sameLines : upsertAll OrderLine.id OrdersDb.mergeOrderLine
      row.props.lines row.props.lines = row.props.lines := by
    apply upsertAll_self _ _ stored.lineIds
    · intro existing line _
      rfl
    · intro line
      rfl
  constructor
  · rw [props]
    simp only [OrdersDb.updateOrderRow, sameLines]
  · constructor
    · constructor
      · exact sound.of_props rfl
      · rw [props]
        exact stored.lineIds
    · rw [props]
      exact ⟨rfl, rfl⟩

/-! ## Issued references -/

namespace PlacementDb

/-- The orders a `requestId` has been given. -/
def rowsFor (db : PlacementDb) (requestId : RequestId) : List OrderRow :=
  db.orders.filter fun row => row.requestId = some requestId

/-- The `order.placed.v1` facts of an order. -/
def placedFacts (db : PlacementDb) (order : OrderNumber) : List Fact :=
  db.outbox.filter fun fact => placedReference? fact = some order

/-- Every reference in use was issued by the counter, and to one order. -/
structure Issued (db : PlacementDb) : Prop where
  distinct : (db.orders.map OrderRow.sequence).Nodup
  rows : ∀ row ∈ db.orders, row.sequence < db.nextSequence
  facts : ∀ fact ∈ db.outbox, ∀ order, placedReference? fact = some order →
    order.sequence < db.nextSequence

theorem claimed_iff (db : PlacementDb) (requestId : RequestId) :
    db.Claimed requestId ↔ db.rowsFor requestId ≠ [] := by
  rw [Claimed, rowsFor, ne_eq, List.filter_eq_nil_iff]
  simp

/-- Nothing of a number that is yet to be committed. -/
theorem Issued.placedFacts_eq_nil {db : PlacementDb} (issued : db.Issued)
    {order : OrderNumber} (next : order.sequence = db.nextSequence) :
    db.placedFacts order = [] := by
  rw [placedFacts, List.filter_eq_nil_iff]
  intro fact member
  rw [decide_eq_true_eq]
  intro placed
  have before := issued.facts fact member order placed
  omega

/-- The row of an issued number is committed with the fact that announces it. -/
theorem Issued.append {db : PlacementDb} (issued : db.Issued) {row : OrderRow}
    (next : row.sequence = db.nextSequence) :
    Issued
      { orders := db.orders ++ [row]
        sequence := some (row.sequence + 1)
        outbox := db.outbox ++ [orderPlacedEvent row.props] } := by
  have further : ∀ outbox, nextSequence
      { orders := db.orders ++ [row]
        sequence := some (row.sequence + 1)
        outbox := outbox } = db.nextSequence + 1 := by
    intro outbox
    simp only [nextSequence, Option.getD_some]
    exact congrArg Nat.succ next
  constructor
  · simp only [List.map_append, List.map_cons, List.map_nil]
    apply List.Nodup.append issued.distinct (List.nodup_singleton _)
    intro sequence old new
    rcases List.mem_map.mp old with ⟨other, stored, rfl⟩
    have before := issued.rows other stored
    rw [List.mem_singleton.mp new] at before
    omega
  · intro other stored
    rw [further]
    rcases List.mem_append.mp stored with old | new
    · exact Nat.lt_succ_of_lt (issued.rows other old)
    · rw [List.mem_singleton.mp new, next]
      exact Nat.lt_succ_self _
  · intro fact member order placed
    rw [further]
    rcases List.mem_append.mp member with old | new
    · exact Nat.lt_succ_of_lt (issued.facts fact old order placed)
    · rw [List.mem_singleton.mp new] at placed
      cases placed
      rw [← next]
      exact Nat.lt_succ_self _

/-- Burning a number keeps every reference issued. -/
theorem Issued.burn {db : PlacementDb} (issued : db.Issued) {number : Nat}
    (next : number = db.nextSequence) :
    Issued { db with sequence := some (number + 1) } := by
  have further : nextSequence { db with sequence := some (number + 1) } =
      db.nextSequence + 1 := by
    simp only [nextSequence, Option.getD_some]
    exact congrArg Nat.succ next
  constructor
  · exact issued.distinct
  · intro row stored
    rw [further]
    exact Nat.lt_succ_of_lt (issued.rows row stored)
  · intro fact member order placed
    rw [further]
    exact Nat.lt_succ_of_lt (issued.facts fact member order placed)

/-- A write-back of an order that announces no placement. -/
theorem Issued.writeBack {db : PlacementDb} (issued : db.Issued)
    (order : OrderNumber) {saved : Order}
    (unplaced : ∀ fact ∈ saved.domainEvents, placedReference? fact = none) :
    (db.writeBack order saved).Issued := by
  have same : (db.writeBack order saved).nextSequence = db.nextSequence := by
    simp only [nextSequence, writeBack_sequence, writeBack_startAt]
  constructor
  · rw [writeBack_sequences]
    exact issued.distinct
  · intro row stored
    rw [same]
    have sequence : row.sequence ∈
        (db.writeBack order saved).orders.map OrderRow.sequence :=
      List.mem_map_of_mem stored
    rw [writeBack_sequences] at sequence
    rcases List.mem_map.mp sequence with ⟨before, storedBefore, equal⟩
    rw [← equal]
    exact issued.rows before storedBefore
  · intro fact member announced placed
    rw [same]
    rcases List.mem_append.mp member with old | new
    · exact issued.facts fact old announced placed
    · rw [unplaced fact new] at placed
      cases placed

end PlacementDb

/-! ## Calls of one request -/

section

variable (reference : ReferenceData) (commands : Nat → PlaceOrderCommand)
  (requestId : RequestId)

/-- The checks in front of the transaction accept the body. -/
structure Accepted (command : PlaceOrderCommand) : Prop where
  discount : command.orderDiscount.getD 0 = 0
  referenceData : assertReferenceDataComplete reference command = .ok ()

/-- Where a call of the request may stand, given what is committed. -/
def CallPhase.Agrees (command : PlaceOrderCommand) (db : PlacementDb) :
    CallPhase → Prop
  | .arrived => True
  | .resolved => Accepted reference command
  | .checked _ => Accepted reference command
  | .opened _ _ => Accepted reference command
  | .allocated _ _ => Accepted reference command
  | .inserted _ _ _ _ => ¬ Refused reference command ∧ ¬ db.Claimed requestId
  | .lost _ _ winner => ∃ row ∈ db.rowsFor requestId, row.result = winner
  | .returned result => ∃ row ∈ db.rowsFor requestId, row.result = result
  | .failed _ => Refused reference command

/-- What an uncommitted row holds. -/
structure Written (command : PlaceOrderCommand) (number : Nat) (row : OrderRow)
    (facts : List Fact) : Prop where
  requestId : row.requestId = command.requestId
  number : row.sequence = number
  facts : facts = [orderPlacedEvent row.props]
  stored : row.Stored

/-- What holds while calls of the request are answered. -/
structure Replaying (system : PlacementSystem) : Prop where
  serialised : system.Serialised
  issued : system.db.Issued
  written : ∀ call attempt number row facts,
    system.phases call = .inserted attempt number row facts →
      Written (commands call) number row facts
  agrees : ∀ call, (commands call).requestId = some requestId →
    (system.phases call).Agrees reference requestId (commands call) system.db
  stored : ∀ row ∈ system.db.rowsFor requestId, row.Stored
  single : ∀ row ∈ system.db.rowsFor requestId,
    system.db.rowsFor requestId = [row] ∧
      ∃ fact, system.db.placedFacts row.props.orderReference = [fact]
  accepted : system.db.Claimed requestId →
    ∀ call, (commands call).requestId = some requestId →
      ¬ Refused reference (commands call)

end

theorem accepted_of_not_refused {reference : ReferenceData}
    {command : PlaceOrderCommand} (passes : ¬ Refused reference command) :
    Accepted reference command := by
  constructor
  · by_contra given
    exact passes (.discount given)
  · cases checked : assertReferenceDataComplete reference command with
    | ok _ => rfl
    | error error => exact absurd (.referenceData error checked) passes

theorem Accepted.not_refused {reference : ReferenceData}
    {command : PlaceOrderCommand} (accepted : Accepted reference command)
    {number : OrderNumber} {firstLineId : Nat} {order : Order}
    (created : createOrder reference command number firstLineId = .ok order) :
    ¬ Refused reference command := by
  intro refused
  cases refused with
  | discount given => exact given accepted.discount
  | referenceData error incomplete =>
      rw [accepted.referenceData] at incomplete
      cases incomplete
  | order other firstOther error failed =>
      rcases createOrder_isOk created with ⟨order', createdToo⟩
      rw [failed] at createdToo
      cases createdToo

end OrderToCash.Orders
