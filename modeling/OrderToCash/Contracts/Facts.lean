import OrderToCash.Kernel.Values

/-!
# Facts and their envelopes

The facts the three services append to their outboxes, with the payload each
builder writes.  A fact is identified by its place in the outbox of the topic
it is published on.  Instants and causation identifiers are carried by no
modelled decision and are left out.
-/

namespace OrderToCash.Contracts

open OrderToCash.Kernel

/-- The wire names of the facts. -/
inductive EventType
  | orderPlaced
  | orderConfirmed
  | orderCompleted
  | orderCancelled
  | orderSagaFailed
  | stockReserved
  | stockRejected
  | stockReleased
  | orderDespatched
  | creditApproved
  | creditRejected
  | creditReleased
  | invoiceIssued
  | paymentReceived
deriving DecidableEq, Repr

/-- The wire name itself, as a compensation step quotes it. -/
def EventType.wireName : EventType → String
  | .orderPlaced => "order.placed.v1"
  | .orderConfirmed => "order.confirmed.v1"
  | .orderCompleted => "order.completed.v1"
  | .orderCancelled => "order.cancelled.v1"
  | .orderSagaFailed => "order.saga_failed.v1"
  | .stockReserved => "stock.reserved.v1"
  | .stockRejected => "stock.rejected.v1"
  | .stockReleased => "stock.released.v1"
  | .orderDespatched => "order.despatched.v1"
  | .creditApproved => "credit.approved.v1"
  | .creditRejected => "credit.rejected.v1"
  | .creditReleased => "credit.released.v1"
  | .invoiceIssued => "invoice.issued.v1"
  | .paymentReceived => "payment.received.v1"

inductive CancellationReason
  | stockRejected
  | creditRejected
  | operatorCancelled
deriving DecidableEq, Repr

inductive StockRejectionReason
  | insufficientStock
  | unknownProduct
deriving DecidableEq, Repr

inductive StockReleaseReason
  | creditRejected
  | orderCancelled
deriving DecidableEq, Repr

inductive CreditRejectionReason
  | overLimit
  | simulatedCentsRule
  | simulatedFailureRate
deriving DecidableEq, Repr

inductive CreditReleaseReason
  | invoicePaid
  | orderCancelled
deriving DecidableEq, Repr

/-- Who registered a payment. -/
inductive PaymentSource
  | operator
  | robot
  | test
deriving DecidableEq, Repr

/-- The three topics the saga consumes, one per producing service. -/
inductive Topic
  | orders
  | fulfillment
  | billing
deriving DecidableEq, Repr

/-- A fact's identity: its topic and its place in that topic's outbox. -/
structure EventId where
  topic : Topic
  position : Nat
deriving DecidableEq, Repr

structure OrderLinePayload where
  productCode : String
  description : String
  quantity : Quantity
  unitPrice : Int
  lineDiscount : Int
deriving DecidableEq, Repr

structure ReservationRef where
  reservationId : UniqueId
  productCode : String
  units : Quantity
deriving DecidableEq, Repr

structure Shortage where
  productCode : String
  requested : Quantity
  available : Int
deriving DecidableEq, Repr

structure DespatchLine where
  productCode : String
  units : Quantity
deriving DecidableEq, Repr

structure InvoiceLine where
  productCode : String
  units : Quantity
  unitPrice : Int
deriving DecidableEq, Repr

inductive CompensationStepKind
  | stockReleased
  | creditReleased
deriving DecidableEq, Repr

/-- One entry of `order.cancelled.v1`'s `compensationSteps`. -/
structure CompensationStep where
  step : CompensationStepKind
  eventId : Option EventId
  eventType : EventType
  summary : String
deriving DecidableEq, Repr

structure OrderPlacedPayload where
  orderReference : OrderNumber
  retailerCode : String
  companyCode : String
  currency : String
  lines : List OrderLinePayload
  initialAmount : Int
  initialDiscount : Int
  totalAmount : Int
  notes : Option String
deriving DecidableEq, Repr

structure OrderTotalPayload where
  orderReference : OrderNumber
  retailerCode : String
  companyCode : String
  currency : String
  totalAmount : Int
deriving DecidableEq, Repr

structure OrderCancelledPayload where
  orderReference : OrderNumber
  retailerCode : String
  companyCode : String
  cancellationReason : CancellationReason
  compensationSteps : List CompensationStep
deriving DecidableEq, Repr

structure OrderSagaFailedPayload where
  orderReference : OrderNumber
  command : String
  attempts : Nat
  lastError : String
deriving DecidableEq, Repr

structure StockReservedPayload where
  orderReference : OrderNumber
  companyCode : String
  retailerCode : String
  reservations : List ReservationRef
deriving DecidableEq, Repr

structure StockRejectedPayload where
  orderReference : OrderNumber
  companyCode : String
  retailerCode : String
  shortages : List Shortage
  reason : StockRejectionReason
deriving DecidableEq, Repr

structure StockReleasedPayload where
  orderReference : OrderNumber
  companyCode : String
  retailerCode : String
  released : List ReservationRef
  reason : StockReleaseReason
deriving DecidableEq, Repr

structure OrderDespatchedPayload where
  orderReference : OrderNumber
  despatchReference : Nat
  companyCode : String
  retailerCode : String
  lines : List DespatchLine
deriving DecidableEq, Repr

structure CreditApprovedPayload where
  orderReference : OrderNumber
  retailerCode : String
  companyCode : String
  creditCode : String
  currency : CurrencyCode
  heldAmount : Int
  availableCreditAfter : Int
deriving DecidableEq, Repr

structure CreditRejectedPayload where
  orderReference : OrderNumber
  retailerCode : String
  companyCode : String
  creditCode : String
  currency : CurrencyCode
  requestedAmount : Int
  availableCredit : Int
  reason : CreditRejectionReason
deriving DecidableEq, Repr

structure CreditReleasedPayload where
  orderReference : OrderNumber
  retailerCode : String
  companyCode : String
  creditCode : String
  currency : CurrencyCode
  releasedAmount : Int
  availableCreditAfter : Int
  reason : CreditReleaseReason
deriving DecidableEq, Repr

structure InvoiceIssuedPayload where
  orderReference : OrderNumber
  invoiceReference : Nat
  retailerCode : String
  companyCode : String
  currency : CurrencyCode
  lines : List InvoiceLine
  amount : Int
  discount : Int
  totalAmount : Int
deriving DecidableEq, Repr

structure PaymentReceivedPayload where
  orderReference : OrderNumber
  invoiceReference : Nat
  paymentReference : String
  currency : CurrencyCode
  amount : Int
  source : PaymentSource
deriving DecidableEq, Repr

/-- A fact: its type and its payload. -/
inductive Fact
  | orderPlaced (payload : OrderPlacedPayload)
  | orderConfirmed (payload : OrderTotalPayload)
  | orderCompleted (payload : OrderTotalPayload)
  | orderCancelled (payload : OrderCancelledPayload)
  | orderSagaFailed (payload : OrderSagaFailedPayload)
  | stockReserved (payload : StockReservedPayload)
  | stockRejected (payload : StockRejectedPayload)
  | stockReleased (payload : StockReleasedPayload)
  | orderDespatched (payload : OrderDespatchedPayload)
  | creditApproved (payload : CreditApprovedPayload)
  | creditRejected (payload : CreditRejectedPayload)
  | creditReleased (payload : CreditReleasedPayload)
  | invoiceIssued (payload : InvoiceIssuedPayload)
  | paymentReceived (payload : PaymentReceivedPayload)
deriving DecidableEq, Repr

namespace Fact

def eventType : Fact → EventType
  | .orderPlaced _ => .orderPlaced
  | .orderConfirmed _ => .orderConfirmed
  | .orderCompleted _ => .orderCompleted
  | .orderCancelled _ => .orderCancelled
  | .orderSagaFailed _ => .orderSagaFailed
  | .stockReserved _ => .stockReserved
  | .stockRejected _ => .stockRejected
  | .stockReleased _ => .stockReleased
  | .orderDespatched _ => .orderDespatched
  | .creditApproved _ => .creditApproved
  | .creditRejected _ => .creditRejected
  | .creditReleased _ => .creditReleased
  | .invoiceIssued _ => .invoiceIssued
  | .paymentReceived _ => .paymentReceived

/-- The order a fact is about, which is also its `correlationId`. -/
def orderReference : Fact → OrderNumber
  | .orderPlaced payload => payload.orderReference
  | .orderConfirmed payload => payload.orderReference
  | .orderCompleted payload => payload.orderReference
  | .orderCancelled payload => payload.orderReference
  | .orderSagaFailed payload => payload.orderReference
  | .stockReserved payload => payload.orderReference
  | .stockRejected payload => payload.orderReference
  | .stockReleased payload => payload.orderReference
  | .orderDespatched payload => payload.orderReference
  | .creditApproved payload => payload.orderReference
  | .creditRejected payload => payload.orderReference
  | .creditReleased payload => payload.orderReference
  | .invoiceIssued payload => payload.orderReference
  | .paymentReceived payload => payload.orderReference

end Fact

/-- A fact on the wire. -/
structure Envelope where
  eventId : EventId
  fact : Fact
deriving DecidableEq, Repr

namespace Envelope

def eventType (envelope : Envelope) : EventType := envelope.fact.eventType

def correlationId (envelope : Envelope) : OrderNumber :=
  envelope.fact.orderReference

end Envelope

end OrderToCash.Contracts
