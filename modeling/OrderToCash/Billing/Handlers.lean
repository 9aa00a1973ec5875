import OrderToCash.Billing.Store

/-!
# The Billing transactions

The bodies the request handlers run under the lock of the credit line, which is
always the first lock they take.  A locked body is one step of the database;
an error rolls the whole body back.
-/

namespace OrderToCash.Billing

open OrderToCash.Contracts
open OrderToCash.Kernel

/-- Whether a payment was recorded now or before. -/
inductive PaymentOutcome
  | accepted
  | duplicate
deriving DecidableEq, Repr

/-- The replies of the four requests. -/
inductive BillingReply
  | alreadyHeld (order : OrderNumber) (creditCode : String) (currency : CurrencyCode)
      (heldAmount : Int) (availableCredit : Int)
  | approved (order : OrderNumber) (creditCode : String) (currency : CurrencyCode)
      (heldAmount : Int) (availableCredit : Int)
  | rejected (order : OrderNumber) (creditCode : String) (currency : CurrencyCode)
      (availableCredit : Int) (reason : CreditRejectionReason)
  | released (order : OrderNumber) (creditCode : String) (currency : CurrencyCode)
      (releasedAmount : Option Int) (availableCreditAfter : Int)
  | invoice (order : OrderNumber) (invoiceId : UniqueId)
      (invoiceReference : Nat) (currency : CurrencyCode) (totalAmount : Int)
      (status : InvoiceStatus) (created : Bool)
  | payment (outcome : PaymentOutcome) (paymentReference : PaymentReference)
      (invoiceReference : Nat) (order : OrderNumber)
      (invoiceStatus : InvoiceStatus)
deriving DecidableEq, Repr

inductive CreditDecision
  | approve
  | refuse (reason : CreditRejectionReason)
deriving DecidableEq, Repr

/-- `SimulatorCreditDecision.decide`: the cents rule first, then the draw
against the failure rate.  The remainder has the sign of the amount. -/
def simulatorDecide (drawn : Bool) (amountMinorUnits : Int) : CreditDecision :=
  if amountMinorUnits.tmod 100 = 99 then
    .refuse .simulatedCentsRule
  else if drawn then
    .refuse .simulatedFailureRate
  else
    .approve

namespace BillingDb

/-- Identifiers generated from the counter on. -/
def newId (db : BillingDb) (index : Nat) : UniqueId := ⟨db.nextId + index⟩

/-- Count the identifiers a transaction generated. -/
def generated (db : BillingDb) (count : Nat) : BillingDb :=
  { db with nextId := db.nextId + count }

/-- Refuse a hold for a reason. -/
def refuse (db : BillingDb) (credit : BuyerCredit) (request : HoldRequest)
    (reason : CreditRejectionReason) :
    Except BillingError (BillingDb × BillingReply) := do
  let credit' ← credit.refuseHold request reason
  .ok (db.saveCredit credit',
    .rejected request.orderReference credit.code credit.currency
      credit'.availableCredit reason)

/-- `CreditHoldHandler.hold`; whether the failure rate is drawn comes with the
call. -/
def hold (db : BillingDb) (request : CreditHoldRequest) (drawn : Bool) :
    Except BillingError (BillingDb × BillingReply) := do
  let amount ←
    (Money.of request.amount.amount request.amount.currency.text).mapError .kernel
  let credit ←
    db.lockForOrder request.retailerCode request.companyCode
      request.orderReference
  let holdRequest : HoldRequest := ⟨request.orderReference, amount⟩
  match credit.evaluateHold holdRequest with
  | .alreadyHeld heldAmount =>
      .ok (db, .alreadyHeld request.orderReference credit.code credit.currency
        heldAmount.amount credit.availableCredit)
  | .currencyMismatch expected =>
      .error (.creditCurrencyMismatch expected request.amount.currency)
  | .overLimit _ => db.refuse credit holdRequest .overLimit
  | .fits =>
      match simulatorDecide drawn amount.amount with
      | .refuse reason => db.refuse credit holdRequest reason
      | .approve => do
          let credit' ← credit.approveHold holdRequest (db.newId 0)
          .ok ((db.generated 1).saveCredit credit',
            .approved request.orderReference credit.code credit.currency
              amount.amount credit'.availableCredit)

/-- `CreditReleaseHandler.release`: nothing is saved where nothing is held. -/
def releaseCredit (db : BillingDb) (request : CreditReleaseRequest) :
    Except BillingError (BillingDb × BillingReply) := do
  let credit ←
    db.lockForOrder request.retailerCode request.companyCode
      request.orderReference
  let released ←
    credit.releaseHold request.orderReference .orderCancelled (db.newId 0)
  match released with
  | none =>
      .ok (db, .released request.orderReference credit.code credit.currency none
        credit.availableCredit)
  | some (credit', entry) =>
      .ok ((db.generated 1).saveCredit credit',
        .released request.orderReference credit.code credit.currency
          (some entry.amount.amount) credit'.availableCredit)

/-- The reply an invoice is answered with. -/
def replyFromSnapshot (row : InvoiceRow) (created : Bool) : BillingReply :=
  .invoice row.orderReference row.id row.invoiceReference row.currencyCode
    row.totalAmount row.status created

/-- The unit prices and the discount of a request, as money. -/
def requestLines (currency : String) :
    List Contracts.InvoiceLine → Except KernelError (List InvoiceLine)
  | [] => .ok []
  | line :: rest => do
      let unitPrice ← Money.of line.unitPrice currency
      let rest' ← requestLines currency rest
      .ok (⟨line.productCode, line.units, unitPrice⟩ :: rest')

/-- The locked part of `InvoiceIssueHandler.issue`. -/
def issueInvoice (db : BillingDb) (request : InvoiceIssueRequest) :
    Except BillingError (BillingDb × BillingReply) := do
  let order := request.orderReference
  let credit ← db.lockForOrder request.retailerCode request.companyCode order
  match db.findByOrderReference order with
  | some existing => .ok (db, replyFromSnapshot existing false)
  | none =>
      if request.currency ≠ credit.currency.text then
        .error (.invoiceCurrencyMismatch credit.currency request.currency)
      else if credit.summary.amountOf order OrderExposure.activeHold ≤ 0 then
        .error (.noActiveCreditHold order)
      else do
        let lines ← (requestLines request.currency request.lines).mapError .kernel
        let discount ←
          (Money.of request.discount request.currency).mapError .kernel
        let invoice ← Invoice.issue
          { id := db.newId 0
            invoiceReference := db.nextInvoiceNumber
            orderReference := order
            retailerCode := request.retailerCode
            companyCode := request.companyCode
            currency := credit.currency
            lines := lines
            discount := discount }
        let credit' ← credit.consumeHold order (db.newId 1)
        let allocated :=
          { db.generated 2 with nextInvoiceNumber := db.nextInvoiceNumber + 1 }
        let db' ← allocated.saveInvoice invoice
        .ok (db'.saveCredit credit', replyFromSnapshot (toInvoiceRow invoice) true)

/-- What the request says of its invoice is what is stored of this one: its
identifier is compared as the text it came as. -/
def identityMatchesInvoice (request : PaymentRegisterRequest)
    (invoice : InvoiceRow) : Bool :=
  request.invoiceId.absentOr invoice.id.text &&
    request.invoiceReference.absentOr invoice.invoiceReference

def identityOf (request : PaymentRegisterRequest) : InvoiceIdentity :=
  match request.invoiceId.value?, request.invoiceReference.value? with
  | some text, _ => .invoiceId text
  | none, some reference => .invoiceReference reference
  | none, none => .notGiven

/-- The invoice a request names, by identifier or else by reference. -/
def resolveInvoice (db : BillingDb) (request : PaymentRegisterRequest) :
    Option InvoiceRow :=
  match identityOf request with
  | .invoiceId text => db.findById (UniqueId.ofText text)
  | .invoiceReference reference => db.findByInvoiceReference reference
  | .notGiven => none

/-- The reply to a payment that is already recorded. -/
def replyFromDuplicate (invoice : InvoiceRow) (payment : PaymentRow) :
    BillingReply :=
  .payment .duplicate payment.paymentReference invoice.invoiceReference
    invoice.orderReference invoice.status

/-- The answer to a request whose payment reference is already recorded. -/
def answerRecorded (db : BillingDb) (request : PaymentRegisterRequest)
    (payment : PaymentRow) : Except BillingError BillingReply :=
  match db.findById payment.invoiceId with
  | none => .error (.invoiceNotFound (.invoiceId payment.invoiceId.text))
  | some paid =>
      if identityMatchesInvoice request paid then
        .ok (replyFromDuplicate paid payment)
      else
        .error (.paymentReferenceConflict request.paymentReference.text)

/-- The payment that already paid a locked invoice with the request's own
reference; here the references are compared as they are written. -/
def paidByRequest (db : BillingDb) (invoice : Invoice)
    (request : PaymentRegisterRequest) : Option PaymentRow :=
  if invoice.status = .paid then
    (db.findPaymentByInvoiceId invoice.id).filter
      (·.paymentReference = request.paymentReference)
  else
    none

/-- The payment row a request makes. -/
def paymentRow (db : BillingDb) (request : PaymentRegisterRequest)
    (invoiceId : UniqueId) : PaymentRow :=
  { id := db.newId 1
    paymentReference := request.paymentReference
    invoiceId := invoiceId
    amount := request.amount.amount
    currencyCode := request.amount.currency
    source := request.source }

/-- The locked part of `PaymentRegisterHandler.register`, on the invoice an
earlier read resolved.  The invoice is saved before the credit line. -/
def registerPayment (db : BillingDb) (request : PaymentRegisterRequest)
    (invoiceSnapshot : InvoiceRow) :
    Except BillingError (BillingDb × BillingReply) := do
  let credit ←
    db.lockForOrder invoiceSnapshot.retailerCode invoiceSnapshot.companyCode
      invoiceSnapshot.orderReference
  match db.findById invoiceSnapshot.id with
  | none => .error (.invoiceNotFound (.invoiceId invoiceSnapshot.id.text))
  | some lockedSnapshot => do
      let invoice ← lockedSnapshot.toInvoiceSnapshot.reconstitute
      match db.paidByRequest invoice request with
      | some paidBy => .ok (db, replyFromDuplicate lockedSnapshot paidBy)
      | none => do
          let amount ←
            (Money.of request.amount.amount request.amount.currency.text).mapError
              .kernel
          let invoice' ←
            invoice.markPaid
              ⟨request.paymentReference.text, amount, request.source⟩
          let released ←
            credit.releaseHold invoiceSnapshot.orderReference .invoicePaid
              (db.newId 0)
          let credit' := (released.map Prod.fst).getD credit
          let db' ←
            (db.generated 2).markPaid invoice' (db.paymentRow request invoice'.id)
          .ok (db'.saveCredit credit',
            .payment .accepted request.paymentReference
              invoice'.invoiceReference invoice'.orderReference invoice'.status)

end BillingDb

end OrderToCash.Billing
