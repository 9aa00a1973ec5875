import OrderToCash.Contracts.Requests
import OrderToCash.Orders.SagaSteps

/-!
# Saga commands

The payload built for an owed command from the loaded order, and the row that
records the command until a reply settles it.  A row remembers what it was
enqueued for: a fact, or an operator's cancel request, whose synthetic envelope
is the only trace an accepted cancellation leaves.
-/

namespace OrderToCash.Orders

open OrderToCash.Contracts
open OrderToCash.Kernel

inductive SagaCommandPayload
  | stockReserve (request : StockReserveRequest)
  | stockRelease (request : StockReleaseRequest)
  | despatchCreate (request : DespatchCreateRequest)
  | creditHold (request : CreditHoldRequest)
  | invoiceIssue (request : InvoiceIssueRequest)
  | creditRelease (request : CreditReleaseRequest)
deriving DecidableEq, Repr

def nonEmptyReserveLines (order : OrderProps) :
    Except HandlerError (List StockReserveLine) :=
  if order.lines = [] then
    .error .noLines
  else
    .ok (order.lines.map fun line => ⟨line.productCode, line.quantity⟩)

def nonEmptyInvoiceLines (order : OrderProps) :
    Except HandlerError (List InvoiceLine) :=
  if order.lines = [] then
    .error .noLines
  else
    .ok (order.lines.map fun line =>
      ⟨line.productCode, line.quantity, line.unitPrice.amount⟩)

/-- The step table owes `stock.release` for a rejected credit only. -/
def stockReleaseReasonFor (eventType : EventType) :
    Except HandlerError StockReleaseReason :=
  if eventType = .creditRejected then
    .ok .creditRejected
  else
    .error (.unexpectedStockReleaseTrigger eventType)

def buildSagaCommandPayload (kind : SagaCommandKind) (order : OrderProps)
    (fact : Envelope) : Except HandlerError SagaCommandPayload :=
  match kind with
  | .stockReserve => do
      let lines ← nonEmptyReserveLines order
      .ok (.stockReserve
        ⟨order.orderReference, order.retailerCode, order.companyCode, lines⟩)
  | .stockRelease => do
      let reason ← stockReleaseReasonFor fact.eventType
      .ok (.stockRelease ⟨order.orderReference, reason⟩)
  | .despatchCreate => .ok (.despatchCreate ⟨order.orderReference⟩)
  | .creditHold =>
      .ok (.creditHold
        ⟨order.orderReference, order.retailerCode, order.companyCode,
          order.totalAmount⟩)
  | .invoiceIssue => do
      let lines ← nonEmptyInvoiceLines order
      .ok (.invoiceIssue
        ⟨order.orderReference, order.retailerCode, order.companyCode,
          order.currency, lines, order.initialDiscount.amount⟩)
  | .creditRelease =>
      .ok (.creditRelease
        ⟨order.orderReference, order.retailerCode, order.companyCode⟩)

/-- What a command row was enqueued for. -/
inductive TriggeringEnvelope
  | fact (envelope : Envelope)
  | operatorCancel (order : OrderNumber) (note : Option String)
deriving DecidableEq, Repr

/-- The content test both sides of an operator cancellation share. -/
def isOperatorCancelEnvelope : TriggeringEnvelope → Bool
  | .fact _ => false
  | .operatorCancel _ _ => true

inductive SagaCommandStatus
  | pending
  | sent
  | parked
  | rejected
deriving DecidableEq, Repr

/-- A row of `saga_commands`. -/
structure SagaCommandRow where
  payload : SagaCommandPayload
  triggeringEnvelope : TriggeringEnvelope
  triggeringTopic : Topic
  status : SagaCommandStatus
  attempts : Nat
  lastError : Option String
  deadLettered : Bool
deriving DecidableEq, Repr

/-- A freshly enqueued row. -/
def SagaCommandRow.enqueued (payload : SagaCommandPayload)
    (triggeringEnvelope : TriggeringEnvelope) (triggeringTopic : Topic) :
    SagaCommandRow :=
  { payload := payload
    triggeringEnvelope := triggeringEnvelope
    triggeringTopic := triggeringTopic
    status := .pending
    attempts := 0
    lastError := none
    deadLettered := false }

/-- The command is still to be sent, or sent again. -/
def SagaCommandRow.IsOutstanding (row : SagaCommandRow) : Prop :=
  row.status = .pending ∨ row.status = .parked

instance (row : SagaCommandRow) : Decidable row.IsOutstanding :=
  inferInstanceAs (Decidable (_ ∨ _))

end OrderToCash.Orders
