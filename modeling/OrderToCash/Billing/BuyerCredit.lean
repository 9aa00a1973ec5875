import OrderToCash.Billing.CreditLedger
import OrderToCash.Checked.Except

/-!
# Buyer credit

The credit line aggregate: the committed exposure of the whole line as one
number, kept in step with every entry appended, and the entries of the one
order being handled.  Amounts read from the integer columns are safe integers;
only the amounts of a request are checked.
-/

namespace OrderToCash.Billing

open OrderToCash.Contracts
open OrderToCash.Kernel

/-- How a payment names its invoice. -/
inductive InvoiceIdentity
  | invoiceId (text : UniqueIdText)
  | invoiceReference (reference : Nat)
  | notGiven
deriving DecidableEq, Repr

/-- Everything a Billing request can fail with. -/
inductive BillingError
  | creditLimitExceeded (requested available : Int) (currency : CurrencyCode)
  | creditRefusalMismatch (reason : CreditRejectionReason)
  | creditReleaseUnderflow (order : OrderNumber) (exposure : Int)
      (currency : CurrencyCode)
  | noActiveHold (order : OrderNumber)
  | invalidBuyerCreditSnapshot (credit : UniqueId)
  | creditLineNotFound (retailerCode companyCode : String)
  | creditCurrencyMismatch (expected received : CurrencyCode)
  | emptyInvoiceLines (order : OrderNumber)
  | invoiceLineCurrencyMismatch (expected received : CurrencyCode)
  | negativeInvoiceTotal (amount discount : Int) (currency : CurrencyCode)
  | invalidInvoiceSnapshot (invoice : UniqueId)
  | invoiceAlreadyPaid (invoiceReference : Nat)
  | invoicePaymentAmountMismatch (expected received : Int) (currency : CurrencyCode)
  | invoicePaymentCurrencyMismatch (expected received : CurrencyCode)
  | noActiveCreditHold (order : OrderNumber)
  | invoiceCurrencyMismatch (expected : CurrencyCode) (received : String)
  | invoiceNotFound (identity : InvoiceIdentity)
  | paymentReferenceConflict (paymentReference : String)
  | duplicateInvoice (order : OrderNumber)
  | kernel (error : KernelError)
deriving DecidableEq, Repr

/-- The code an error is answered with. -/
def BillingError.rpcErrorCode : BillingError → RpcErrorCode
  | .creditLineNotFound _ _ => .notFound
  | .invoiceNotFound _ => .notFound
  | .creditCurrencyMismatch _ _ => .validationFailed
  | .invoiceCurrencyMismatch _ _ => .validationFailed
  | .negativeInvoiceTotal _ _ _ => .validationFailed
  | .emptyInvoiceLines _ => .validationFailed
  | .invoiceLineCurrencyMismatch _ _ => .validationFailed
  | .creditReleaseUnderflow _ _ _ => .preconditionFailed
  | .noActiveHold _ => .preconditionFailed
  | .noActiveCreditHold _ => .preconditionFailed
  | .invoiceAlreadyPaid _ => .preconditionFailed
  | .invoicePaymentAmountMismatch _ _ _ => .preconditionFailed
  | .invoicePaymentCurrencyMismatch _ _ => .preconditionFailed
  | .paymentReferenceConflict _ => .conflict
  | .creditLimitExceeded _ _ _ => .domainError
  | .creditRefusalMismatch _ => .domainError
  | .invalidBuyerCreditSnapshot _ => .domainError
  | .invalidInvoiceSnapshot _ => .domainError
  | .kernel _ => .domainError
  | .duplicateInvoice _ => .internalError

/-- The credit line aggregate, with the facts it has not published yet. -/
structure BuyerCredit where
  id : UniqueId
  code : String
  retailerCode : String
  companyCode : String
  creditLimit : Int
  currency : CurrencyCode
  committedExposure : Int
  loadedEntries : List CreditLedgerEntry
  appended : List CreditLedgerEntry
  domainEvents : List Fact
deriving DecidableEq, Repr

structure HoldRequest where
  orderReference : OrderNumber
  amount : Money
deriving DecidableEq, Repr

inductive HoldEvaluation
  | alreadyHeld (heldAmount : Money)
  | currencyMismatch (expected : CurrencyCode)
  | fits
  | overLimit (availableCredit : Int)
deriving DecidableEq, Repr

namespace BuyerCredit

/-- Rebuild a stored credit line; a snapshot over its limit, or with an entry in
another currency, is refused. -/
def reconstitute (credit : BuyerCredit) : Except BillingError BuyerCredit :=
  if credit.creditLimit < 0 then
    .error (.invalidBuyerCreditSnapshot credit.id)
  else if credit.committedExposure > credit.creditLimit then
    .error (.invalidBuyerCreditSnapshot credit.id)
  else if credit.loadedEntries.any (·.amount.currency ≠ credit.currency) then
    .error (.invalidBuyerCreditSnapshot credit.id)
  else
    .ok { credit with appended := [], domainEvents := [] }

def availableCredit (credit : BuyerCredit) : Int :=
  credit.creditLimit - credit.committedExposure

def entries (credit : BuyerCredit) : List CreditLedgerEntry :=
  credit.loadedEntries ++ credit.appended

def entriesOf (credit : BuyerCredit) (order : OrderNumber) :
    List CreditLedgerEntry :=
  credit.entries.filter (·.orderReference = order)

def summary (credit : BuyerCredit) : LedgerSummary :=
  summariseLedger credit.entries

/-- Decide a hold; any hold the order ever had answers the request. -/
def evaluateHold (credit : BuyerCredit) (request : HoldRequest) :
    HoldEvaluation :=
  match (credit.entriesOf request.orderReference).find? (·.type = .hold) with
  | some holdEntry => .alreadyHeld holdEntry.amount
  | none =>
      if request.amount.currency ≠ credit.currency then
        .currencyMismatch credit.currency
      else if request.amount.amount > credit.availableCredit then
        .overLimit credit.availableCredit
      else
        .fits

/-- Append an entry, moving the committed exposure by some amount. -/
def append (credit : BuyerCredit) (entry : CreditLedgerEntry)
    (committed : Int) : BuyerCredit :=
  { credit with
    committedExposure := credit.committedExposure + committed
    appended := credit.appended ++ [entry] }

def addDomainEvent (credit : BuyerCredit) (fact : Fact) : BuyerCredit :=
  { credit with domainEvents := credit.domainEvents ++ [fact] }

/-- Record a hold that fits. -/
def approveHold (credit : BuyerCredit) (request : HoldRequest)
    (newId : UniqueId) : Except BillingError BuyerCredit :=
  match credit.evaluateHold request with
  | .fits =>
      let held :=
        credit.append
          { id := newId
            orderReference := request.orderReference
            amount := request.amount
            type := .hold }
          request.amount.amount
      .ok (held.addDomainEvent (.creditApproved
        { orderReference := request.orderReference
          retailerCode := credit.retailerCode
          companyCode := credit.companyCode
          creditCode := credit.code
          currency := credit.currency
          heldAmount := request.amount.amount
          availableCreditAfter := held.availableCredit }))
  | _ =>
      .error (.creditLimitExceeded request.amount.amount credit.availableCredit
        credit.currency)

/-- Record a refusal: no entry, and the one fact. -/
def refuseHold (credit : BuyerCredit) (request : HoldRequest)
    (reason : CreditRejectionReason) : Except BillingError BuyerCredit :=
  if reason = .overLimit ∧ request.amount.amount ≤ credit.availableCredit then
    .error (.creditRefusalMismatch reason)
  else
    .ok (credit.addDomainEvent (.creditRejected
      { orderReference := request.orderReference
        retailerCode := credit.retailerCode
        companyCode := credit.companyCode
        creditCode := credit.code
        currency := credit.currency
        requestedAmount := request.amount.amount
        availableCredit := credit.availableCredit
        reason := reason }))

/-- Release what the order still ties up; nothing where it ties up nothing. -/
def releaseHold (credit : BuyerCredit) (order : OrderNumber)
    (reason : CreditReleaseReason) (newId : UniqueId) :
    Except BillingError (Option (BuyerCredit × CreditLedgerEntry)) :=
  let outstanding :=
    (summariseLedger (credit.entriesOf order)).amountOf order
      OrderExposure.exposure
  if outstanding < 0 then
    .error (.creditReleaseUnderflow order outstanding credit.currency)
  else if outstanding = 0 then
    .ok none
  else
    let entry : CreditLedgerEntry :=
      { id := newId
        orderReference := order
        amount := ⟨outstanding, credit.currency⟩
        type := .release }
    let released := credit.append entry (-outstanding)
    .ok (some
      (released.addDomainEvent (.creditReleased
        { orderReference := order
          retailerCode := credit.retailerCode
          companyCode := credit.companyCode
          creditCode := credit.code
          currency := credit.currency
          releasedAmount := outstanding
          availableCreditAfter := released.availableCredit
          reason := reason }),
        entry))

/-- Consume the order's active hold; no fact. -/
def consumeHold (credit : BuyerCredit) (order : OrderNumber)
    (newId : UniqueId) : Except BillingError BuyerCredit :=
  let activeHold :=
    (summariseLedger (credit.entriesOf order)).amountOf order
      OrderExposure.activeHold
  if activeHold ≤ 0 then
    .error (.noActiveHold order)
  else
    .ok (credit.append
      { id := newId
        orderReference := order
        amount := ⟨activeHold, credit.currency⟩
        type := .consume } 0)

end BuyerCredit

end OrderToCash.Billing
