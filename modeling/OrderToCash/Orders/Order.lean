import OrderToCash.Checked.Except
import OrderToCash.Orders.Status

/-!
# The order aggregate

An order's properties, the derivation of its totals, and the operations the
saga runs on it.  Every operation that moves the status goes through one
funnel, which looks the edge up in Table T-1 and appends the fact the table
names for it.
-/

namespace OrderToCash.Orders

open OrderToCash.Checked
open OrderToCash.Contracts
open OrderToCash.Kernel

structure OrderLine where
  id : UniqueId
  productCode : String
  description : String
  quantity : Quantity
  unitPrice : Money
  lineDiscount : Money
deriving DecidableEq, Repr

structure OrderTotals where
  initialAmount : Money
  initialDiscount : Money
  totalAmount : Money
deriving DecidableEq, Repr

/-- The domain errors of the aggregate. -/
inductive OrderError
  | transitionNotAllowed (order : OrderNumber) (source target : OrderStatus)
  | hasNoLines (order : OrderNumber)
  | totalNegative (order : OrderNumber) (totalAmount : Money)
  | lineCurrencyMismatch (order : OrderNumber) (expected actual : String)
  | reasonNotApplicable (order : OrderNumber) (status : OrderStatus)
      (reason : CancellationReason)
  | snapshotInvalid (order : OrderNumber)
  | linesFrozen (order : OrderNumber) (status : OrderStatus)
  | lineNotFound (order : OrderNumber) (line : UniqueId)
  | reasonRequired (order : OrderNumber)
  | reasonInvalid (order : OrderNumber) (reason : String)
  | kernel (error : KernelError)
deriving DecidableEq, Repr

/-- The properties of an order: what the aggregate holds and the tables store. -/
structure OrderProps where
  orderReference : OrderNumber
  retailerCode : String
  companyCode : String
  currency : String
  lines : List OrderLine
  initialAmount : Money
  initialDiscount : Money
  totalAmount : Money
  status : OrderStatus
  cancellationReason : Option CancellationReason
  notes : Option String
deriving DecidableEq, Repr

/-- An order with the facts it has not published yet. -/
structure Order where
  props : OrderProps
  domainEvents : List Fact
deriving DecidableEq, Repr

/-! ## Totals -/

/-- `Σ unitPrice × quantity`, from `sum` on. -/
def sumAmounts : Money → List OrderLine → Except KernelError Money
  | sum, [] => .ok sum
  | sum, line :: rest => do
      let lineTotal ← line.unitPrice.multiply line.quantity
      let next ← sum.add lineTotal
      sumAmounts next rest

/-- `Σ lineDiscount`, from `sum` on. -/
def sumDiscounts : Money → List OrderLine → Except KernelError Money
  | sum, [] => .ok sum
  | sum, line :: rest => do
      let next ← sum.add line.lineDiscount
      sumDiscounts next rest

/-- The totals of an order over its lines; a negative total is refused. -/
def computeOrderTotals (order : OrderNumber) (currency : String)
    (lines : List OrderLine) : Except OrderError OrderTotals := do
  let zero ← (Money.zero currency).mapError OrderError.kernel
  let orderDiscount := zero
  let initialAmount ← (sumAmounts zero lines).mapError OrderError.kernel
  let lineDiscounts ← (sumDiscounts zero lines).mapError OrderError.kernel
  let initialDiscount ←
    (lineDiscounts.add orderDiscount).mapError OrderError.kernel
  let totalAmount ←
    (initialAmount.subtract initialDiscount).mapError OrderError.kernel
  if totalAmount.isNegative then
    .error (.totalNegative order totalAmount)
  else
    .ok ⟨initialAmount, initialDiscount, totalAmount⟩

theorem currency_of_sumAmounts {sum total : Money} {lines : List OrderLine}
    (summed : sumAmounts sum lines = .ok total) :
    total.currency = sum.currency := by
  induction lines generalizing sum with
  | nil =>
      simp only [sumAmounts, Except.ok.injEq] at summed
      rw [summed]
  | cons line rest inductionHypothesis =>
      simp only [sumAmounts, bind_eq_ok_iff] at summed
      rcases summed with ⟨lineTotal, _, next, added, remaining⟩
      rw [inductionHypothesis remaining, (Money.add_eq_ok added).2]

/-- The totals that are accepted: their currency is the upper case of the order's,
and the total is not negative. -/
theorem computeOrderTotals_eq_ok {order : OrderNumber} {currency : String}
    {lines : List OrderLine} {totals : OrderTotals}
    (computed : computeOrderTotals order currency lines = .ok totals) :
    validateCurrency currency = .ok totals.totalAmount.currency ∧
      0 ≤ totals.totalAmount.amount := by
  simp only [computeOrderTotals, bind_eq_ok_iff, mapError_eq_ok_iff,
    ite_error_eq_ok_iff, Except.ok.injEq] at computed
  rcases computed with ⟨zero, isZero, initialAmount, summed, _, _, _, _, totalAmount,
    subtracted, notNegative, rfl⟩
  rcases Money.zero_eq_ok_iff.mp isZero with ⟨code, validated, rfl⟩
  constructor
  · rw [(Money.subtract_eq_ok subtracted).2]
    exact validated.trans (congrArg Except.ok (currency_of_sumAmounts summed).symm)
  · simpa [Money.isNegative] using notNegative

/-! ## Facts -/

def orderPlacedEvent (props : OrderProps) : Fact :=
  .orderPlaced
    { orderReference := props.orderReference
      retailerCode := props.retailerCode
      companyCode := props.companyCode
      currency := props.currency
      lines := props.lines.map fun line =>
        { productCode := line.productCode
          description := line.description
          quantity := line.quantity
          unitPrice := line.unitPrice.amount
          lineDiscount := line.lineDiscount.amount }
      initialAmount := props.initialAmount.amount
      initialDiscount := props.initialDiscount.amount
      totalAmount := props.totalAmount.amount
      notes := props.notes }

/-- The payload `order.confirmed.v1` and `order.completed.v1` share. -/
def orderTotalPayload (props : OrderProps) : OrderTotalPayload :=
  { orderReference := props.orderReference
    retailerCode := props.retailerCode
    companyCode := props.companyCode
    currency := props.currency
    totalAmount := props.totalAmount.amount }

def orderConfirmedEvent (props : OrderProps) : Fact :=
  .orderConfirmed (orderTotalPayload props)

def orderCompletedEvent (props : OrderProps) : Fact :=
  .orderCompleted (orderTotalPayload props)

def orderCancelledEvent (reason : CancellationReason)
    (compensationSteps : List CompensationStep) (props : OrderProps) : Fact :=
  .orderCancelled
    { orderReference := props.orderReference
      retailerCode := props.retailerCode
      companyCode := props.companyCode
      cancellationReason := reason
      compensationSteps := compensationSteps }

/-- What a dead-lettered command reports about itself. -/
structure SagaFailureInput where
  command : String
  attempts : Nat
  lastError : String
deriving DecidableEq, Repr

def orderSagaFailedEvent (input : SagaFailureInput) (props : OrderProps) : Fact :=
  .orderSagaFailed
    { orderReference := props.orderReference
      command := input.command
      attempts := input.attempts
      lastError := input.lastError }

/-! ## Construction -/

structure PlaceOrderLineInput where
  productCode : String
  description : String
  quantity : Quantity
  unitPrice : Money
  lineDiscount : Money
deriving DecidableEq, Repr

structure PlaceOrderInput where
  orderReference : OrderNumber
  retailerCode : String
  companyCode : String
  currency : String
  lines : List PlaceOrderLineInput
  notes : Option String
deriving DecidableEq, Repr

/-- Both amounts of every line are in the order's currency. -/
def assertLineCurrencies (order : OrderNumber) (currency : String) :
    List PlaceOrderLineInput → Except OrderError Unit
  | [] => .ok ()
  | line :: rest =>
      if line.unitPrice.currency.text ≠ currency then
        .error (.lineCurrencyMismatch order currency line.unitPrice.currency.text)
      else if line.lineDiscount.currency.text ≠ currency then
        .error (.lineCurrencyMismatch order currency line.lineDiscount.currency.text)
      else
        assertLineCurrencies order currency rest

/-- The lines of a new order, each with a freshly generated identifier. -/
def createLines (newId : Nat → UniqueId) (lines : List PlaceOrderLineInput) :
    List OrderLine :=
  lines.mapIdx fun index line =>
    { id := newId index
      productCode := line.productCode
      description := line.description
      quantity := line.quantity
      unitPrice := line.unitPrice
      lineDiscount := line.lineDiscount }

namespace Order

/-- The only way a new order comes into being: status `placed` and exactly one
`order.placed.v1`. -/
def place (newId : Nat → UniqueId) (input : PlaceOrderInput) :
    Except OrderError Order := do
  if input.lines = [] then
    .error (.hasNoLines input.orderReference)
  else
    assertLineCurrencies input.orderReference input.currency input.lines
    let lines := createLines newId input.lines
    let totals ← computeOrderTotals input.orderReference input.currency lines
    let props : OrderProps :=
      { orderReference := input.orderReference
        retailerCode := input.retailerCode
        companyCode := input.companyCode
        currency := input.currency
        lines := lines
        initialAmount := totals.initialAmount
        initialDiscount := totals.initialDiscount
        totalAmount := totals.totalAmount
        status := .placed
        cancellationReason := none
        notes := input.notes }
    .ok ⟨props, [orderPlacedEvent props]⟩

/-- Rebuild a stored order: no fact, the totals derived afresh, and a
cancellation reason exactly on a cancelled order. -/
def reconstitute (snapshot : OrderProps) : Except OrderError Order := do
  if snapshot.lines = [] then
    .error (.hasNoLines snapshot.orderReference)
  else if snapshot.status = .cancelled ∧ snapshot.cancellationReason = none then
    .error (.snapshotInvalid snapshot.orderReference)
  else if snapshot.status ≠ .cancelled ∧ snapshot.cancellationReason ≠ none then
    .error (.snapshotInvalid snapshot.orderReference)
  else
    let totals ←
      computeOrderTotals snapshot.orderReference snapshot.currency snapshot.lines
    .ok
      ⟨{ snapshot with
          initialAmount := totals.initialAmount
          initialDiscount := totals.initialDiscount
          totalAmount := totals.totalAmount },
        []⟩

/-! ## Transitions -/

/-- The funnel of every status change.  `reason` is the patch `cancel` applies
together with the status. -/
def transitionTo (order : Order) (target : OrderStatus)
    (reason : Option CancellationReason)
    (buildEvent : Option (OrderProps → Fact)) :
    Except OrderError Order :=
  match findTransition order.props.status target with
  | none =>
      .error (.transitionNotAllowed order.props.orderReference
        order.props.status target)
  | some transition =>
      let props :=
        { order.props with
          status := target
          cancellationReason := reason <|> order.props.cancellationReason }
      match transition.emits, buildEvent with
      | some _, some build => .ok ⟨props, order.domainEvents ++ [build props]⟩
      | _, _ => .ok ⟨props, order.domainEvents⟩

def markStockReserved (order : Order) : Except OrderError Order :=
  order.transitionTo .stockReserved none none

def approveCredit (order : Order) : Except OrderError Order :=
  order.transitionTo .creditApproved none none

def confirm (order : Order) : Except OrderError Order :=
  order.transitionTo .confirmed none (some orderConfirmedEvent)

def markDespatched (order : Order) : Except OrderError Order :=
  order.transitionTo .despatched none none

def markInvoiced (order : Order) : Except OrderError Order :=
  order.transitionTo .invoiced none none

def markPaid (order : Order) : Except OrderError Order :=
  order.transitionTo .paid none none

def complete (order : Order) : Except OrderError Order :=
  order.transitionTo .completed none (some orderCompletedEvent)

/-- Cancel with a reason Table T-1 pairs with the current status. -/
def cancel (order : Order) (reason : CancellationReason)
    (compensationSteps : List CompensationStep) : Except OrderError Order :=
  if findTransition order.props.status .cancelled = none then
    .error (.transitionNotAllowed order.props.orderReference
      order.props.status .cancelled)
  else if reason = .stockRejected ∧ order.props.status ≠ .placed then
    .error (.reasonNotApplicable order.props.orderReference
      order.props.status reason)
  else if reason = .creditRejected ∧ order.props.status ≠ .stockReserved then
    .error (.reasonNotApplicable order.props.orderReference
      order.props.status reason)
  else
    order.transitionTo .cancelled (some reason)
      (some (orderCancelledEvent reason compensationSteps))

/-- Append one `order.saga_failed.v1`; no property changes. -/
def recordSagaFailure (order : Order) (input : SagaFailureInput) : Order :=
  { order with
    domainEvents :=
      order.domainEvents ++ [orderSagaFailedEvent input order.props] }

/-! ## What the operations do -/

/-- A new order is `placed`, under the reference it was given, with totals
derived from its lines and one pending fact. -/
theorem place_eq_ok {newId : Nat → UniqueId} {input : PlaceOrderInput}
    {order : Order} (accepted : place newId input = .ok order) :
    order.props.orderReference = input.orderReference ∧
      order.props.status = .placed ∧
      order.props.cancellationReason = none ∧
      order.props.currency = input.currency ∧
      order.props.lines = createLines newId input.lines ∧
      input.lines ≠ [] ∧
      computeOrderTotals input.orderReference input.currency
          (createLines newId input.lines) =
        .ok ⟨order.props.initialAmount, order.props.initialDiscount,
          order.props.totalAmount⟩ ∧
      order.domainEvents = [orderPlacedEvent order.props] := by
  simp only [place, ite_error_eq_ok_iff, bind_eq_ok_iff, Except.ok.injEq]
    at accepted
  rcases accepted with ⟨notEmpty, _, _, totals, computed, rfl⟩
  exact ⟨rfl, rfl, rfl, rfl, rfl, notEmpty, computed, rfl⟩

/-- A successful transition follows an edge and changes nothing but the status,
the reason it is given and the pending facts. -/
theorem transitionTo_eq_ok {order order' : Order} {target : OrderStatus}
    {reason : Option CancellationReason}
    {buildEvent : Option (OrderProps → Fact)}
    (accepted : order.transitionTo target reason buildEvent = .ok order') :
    Edge order.props.status target ∧
      order'.props =
        { order.props with
          status := target
          cancellationReason := reason <|> order.props.cancellationReason } := by
  unfold transitionTo at accepted
  cases found : findTransition order.props.status target with
  | none => simp [found] at accepted
  | some transition =>
      simp only [found] at accepted
      refine ⟨by simp [Edge, found], ?_⟩
      split at accepted <;> cases accepted <;> rfl

/-- A successful cancellation leaves a cancellable status for `cancelled`, with
a reason that applied to it. -/
theorem cancel_eq_ok {order order' : Order} {reason : CancellationReason}
    {compensationSteps : List CompensationStep}
    (accepted : order.cancel reason compensationSteps = .ok order') :
    order.props.status.IsCancellable ∧
      (reason = .stockRejected → order.props.status = .placed) ∧
      (reason = .creditRejected → order.props.status = .stockReserved) ∧
      order'.props =
        { order.props with
          status := .cancelled
          cancellationReason := some reason } := by
  simp only [cancel, ite_error_eq_ok_iff, not_and, not_not] at accepted
  rcases accepted with ⟨_, stockApplies, creditApplies, transitioned⟩
  have moved := transitionTo_eq_ok transitioned
  exact ⟨moved.1, stockApplies, creditApplies, moved.2⟩

/-- An operator may cancel from every cancellable status. -/
theorem operatorCancel_isOk {order : Order}
    (compensationSteps : List CompensationStep)
    (cancellable : order.props.status.IsCancellable) :
    ∃ order', order.cancel .operatorCancelled compensationSteps = .ok order' := by
  have found : findTransition order.props.status .cancelled ≠ none := by
    rw [← Option.isSome_iff_ne_none]
    exact cancellable
  cases selected : findTransition order.props.status .cancelled with
  | none => exact absurd selected found
  | some transition =>
      simp only [cancel, transitionTo, selected, reduceCtorEq, false_and, if_false]
      split
      · exact ⟨_, rfl⟩
      · exact ⟨_, rfl⟩

/-- The snapshots that are rebuilt. -/
theorem reconstitute_eq_ok_iff {snapshot : OrderProps} {loaded : Order} :
    reconstitute snapshot = .ok loaded ↔
      snapshot.lines ≠ [] ∧
        ¬ (snapshot.status = .cancelled ∧ snapshot.cancellationReason = none) ∧
        ¬ (snapshot.status ≠ .cancelled ∧ snapshot.cancellationReason ≠ none) ∧
        ∃ totals, computeOrderTotals snapshot.orderReference snapshot.currency
            snapshot.lines = .ok totals ∧
          loaded =
            ⟨{ snapshot with
                initialAmount := totals.initialAmount
                initialDiscount := totals.initialDiscount
                totalAmount := totals.totalAmount },
              []⟩ := by
  simp only [reconstitute, ite_error_eq_ok_iff, bind_eq_ok_iff,
    Except.ok.injEq, @eq_comm _ _ loaded]

/-- Rebuilding an order keeps everything but the totals, which it derives. -/
theorem reconstitute_eq_ok {snapshot : OrderProps} {order : Order}
    (accepted : reconstitute snapshot = .ok order) :
    ∃ totals, computeOrderTotals snapshot.orderReference snapshot.currency
        snapshot.lines = .ok totals ∧
      order =
        ⟨{ snapshot with
            initialAmount := totals.initialAmount
            initialDiscount := totals.initialDiscount
            totalAmount := totals.totalAmount }, []⟩ := by
  rcases reconstitute_eq_ok_iff.mp accepted with ⟨_, _, _, totals, computed, rfl⟩
  exact ⟨totals, computed, rfl⟩

@[simp]
theorem recordSagaFailure_props (order : Order) (input : SagaFailureInput) :
    (order.recordSagaFailure input).props = order.props :=
  rfl

end Order

end OrderToCash.Orders
