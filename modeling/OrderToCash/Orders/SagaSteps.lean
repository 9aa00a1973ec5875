import OrderToCash.Orders.Order

/-!
# The saga step table

The table `SAGA_STEPS` as data: for each fact, its variants, each with the one
status it applies to.  A fact either advances the order, possibly owing a
command, or cancels it, or is skipped.  A step may fail: the reasons are read
off the fact, and a reason the table does not map is refused.
-/

namespace OrderToCash.Orders

open OrderToCash.Checked
open OrderToCash.Contracts
open OrderToCash.Kernel

/-- The six outbound saga commands. -/
inductive SagaCommandKind
  | stockReserve
  | stockRelease
  | despatchCreate
  | creditHold
  | invoiceIssue
  | creditRelease
deriving DecidableEq, Repr

/-- What handling a fact may fail with. -/
inductive HandlerError
  | order (error : OrderError)
  | unmappedStockReleaseReason
  | unexpectedCreditReleaseReason
  | unexpectedStockReleaseTrigger (eventType : EventType)
  | noLines
deriving DecidableEq, Repr

inductive SagaStep
  | skip
  | advance (precondition : OrderStatus)
      (apply : Order → Except OrderError Order)
      (commandAfter : Option SagaCommandKind)
  | cancel (precondition : OrderStatus)
      (reason : Fact → Except HandlerError CancellationReason)
      (compensationSteps : Envelope → List CompensationStep)

/-- The status a step applies to; none for a skipped fact. -/
def SagaStep.precondition? : SagaStep → Option OrderStatus
  | .skip => none
  | .advance precondition _ _ => some precondition
  | .cancel precondition _ _ => some precondition

/-- The `reason` field of a fact read as a `stock.released.v1` payload. -/
def stockReleaseReason? : Fact → Option StockReleaseReason
  | .stockReleased payload => some payload.reason
  | _ => none

/-- The `reason` field of a fact read as a `credit.released.v1` payload. -/
def creditReleaseReason? : Fact → Option CreditReleaseReason
  | .creditReleased payload => some payload.reason
  | _ => none

def mapReason : Option StockReleaseReason → Except HandlerError CancellationReason
  | some .creditRejected => .ok .creditRejected
  | some .orderCancelled => .ok .operatorCancelled
  | none => .error .unmappedStockReleaseReason

def mapCreditReleaseReason :
    Option CreditReleaseReason → Except HandlerError CancellationReason
  | some .orderCancelled => .ok .operatorCancelled
  | _ => .error .unexpectedCreditReleaseReason

/-- The wire text of a stock release's reason. -/
def StockReleaseReason.wireText : Option StockReleaseReason → String
  | some .creditRejected => "credit_rejected"
  | some .orderCancelled => "order_cancelled"
  | none => "undefined"

/-- The one compensation step an observed `stock.released.v1` reports. -/
def stepsFrom (envelope : Envelope) : List CompensationStep :=
  [ { step := .stockReleased
      eventId := some envelope.eventId
      eventType := envelope.eventType
      summary := "stock released — reason: " ++
        StockReleaseReason.wireText (stockReleaseReason? envelope.fact) } ]

/-- Both releases of an operator cancellation, the stock's synthesised. -/
def stepsFromStockThenCreditRelease (envelope : Envelope) :
    List CompensationStep :=
  [ { step := .stockReleased
      eventId := none
      eventType := .stockReleased
      summary := "stock released — reason: order_cancelled (the contested resource, released FIRST so Fulfillment's own lock can arbitrate it against a despatch already requested — saga.md §4.3)" },
    { step := .creditReleased
      eventId := some envelope.eventId
      eventType := envelope.eventType
      summary := "credit released — reason: order_cancelled" } ]

/-- The variants of each fact. -/
def sagaSteps : EventType → List SagaStep
  | .orderPlaced => [.advance .placed .ok (some .stockReserve)]
  | .stockReserved =>
      [.advance .placed Order.markStockReserved (some .creditHold)]
  | .stockRejected =>
      [.cancel .placed (fun _ => .ok .stockRejected) fun _ => []]
  | .creditApproved =>
      [.advance .stockReserved
        (fun order => do
          let approved ← order.approveCredit
          approved.confirm)
        (some .despatchCreate)]
  | .creditRejected => [.advance .stockReserved .ok (some .stockRelease)]
  | .stockReleased =>
      [ .cancel .stockReserved
          (fun fact => mapReason (stockReleaseReason? fact)) stepsFrom,
        .advance .creditApproved .ok (some .creditRelease),
        .advance .confirmed .ok (some .creditRelease) ]
  | .orderDespatched =>
      [.advance .confirmed Order.markDespatched (some .invoiceIssue)]
  | .invoiceIssued => [.advance .despatched Order.markInvoiced none]
  | .paymentReceived => [.advance .invoiced Order.markPaid none]
  | .creditReleased =>
      [ .advance .paid Order.complete none,
        .cancel .creditApproved
          (fun fact => mapCreditReleaseReason (creditReleaseReason? fact))
          stepsFromStockThenCreditRelease,
        .cancel .confirmed
          (fun fact => mapCreditReleaseReason (creditReleaseReason? fact))
          stepsFromStockThenCreditRelease ]
  | .orderConfirmed => [.skip]
  | .orderCompleted => [.skip]
  | .orderCancelled => [.skip]
  | .orderSagaFailed => []

/-- The variant, if any, whose precondition is the order's current status. -/
def stepForStatus (eventType : EventType) (status : OrderStatus) :
    Option SagaStep :=
  (sagaSteps eventType).find? fun step => step.precondition? = some status

/-- The status reported on an ignored fact: the precondition of a fact's only
variant, and nothing for a fact with several. -/
def soleExpectedStatus (eventType : EventType) : Option OrderStatus :=
  match sagaSteps eventType with
  | [step] => step.precondition?
  | _ => none

/-- Facts with no variant but skips are dropped before any I/O. -/
def IsSkipped (eventType : EventType) : Prop :=
  ∀ step ∈ sagaSteps eventType, step.precondition? = none

instance (eventType : EventType) : Decidable (IsSkipped eventType) :=
  inferInstanceAs (Decidable (∀ step ∈ sagaSteps eventType, _))

/-- The status a fact's advancing step leaves an order in. -/
def advancedStatus : EventType → OrderStatus → OrderStatus
  | .stockReserved, _ => .stockReserved
  | .creditApproved, _ => .confirmed
  | .orderDespatched, _ => .despatched
  | .invoiceIssued, _ => .invoiced
  | .paymentReceived, _ => .paid
  | .creditReleased, _ => .completed
  | _, status => status

theorem mem_of_stepForStatus {eventType : EventType} {status : OrderStatus}
    {step : SagaStep} (found : stepForStatus eventType status = some step) :
    step ∈ sagaSteps eventType ∧ step.precondition? = some status := by
  unfold stepForStatus at found
  exact ⟨List.mem_of_find?_eq_some found, by
    simpa using List.find?_some found⟩

/-- An advancing step changes nothing but the status. -/
theorem advance_props {eventType : EventType} {status : OrderStatus}
    {precondition : OrderStatus} {apply : Order → Except OrderError Order}
    {commandAfter : Option SagaCommandKind} {order order' : Order}
    (found : stepForStatus eventType status =
      some (.advance precondition apply commandAfter))
    (applied : apply order = .ok order') :
    order'.props =
      { order.props with
        status := advancedStatus eventType order.props.status } := by
  have member := (mem_of_stepForStatus found).1
  cases eventType <;>
    simp only [sagaSteps, List.mem_cons, List.not_mem_nil, or_false, reduceCtorEq,
      SagaStep.advance.injEq, false_or, or_self] at member
  case orderPlaced =>
    rcases member with ⟨_, rfl, _⟩
    cases applied
    rfl
  case stockReserved =>
    rcases member with ⟨_, rfl, _⟩
    exact (Order.transitionTo_eq_ok applied).2
  case creditApproved =>
    rcases member with ⟨_, rfl, _⟩
    simp only [bind_eq_ok_iff] at applied
    rcases applied with ⟨approved, first, second⟩
    rw [(Order.transitionTo_eq_ok second).2, (Order.transitionTo_eq_ok first).2]
    rfl
  case creditRejected =>
    rcases member with ⟨_, rfl, _⟩
    cases applied
    rfl
  case stockReleased =>
    rcases member with ⟨_, rfl, _⟩ | ⟨_, rfl, _⟩
    · cases applied
      rfl
    · cases applied
      rfl
  case orderDespatched =>
    rcases member with ⟨_, rfl, _⟩
    exact (Order.transitionTo_eq_ok applied).2
  case invoiceIssued =>
    rcases member with ⟨_, rfl, _⟩
    exact (Order.transitionTo_eq_ok applied).2
  case paymentReceived =>
    rcases member with ⟨_, rfl, _⟩
    exact (Order.transitionTo_eq_ok applied).2
  case creditReleased =>
    rcases member with ⟨_, rfl, _⟩
    exact (Order.transitionTo_eq_ok applied).2

end OrderToCash.Orders
