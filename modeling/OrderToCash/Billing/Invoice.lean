import OrderToCash.Billing.BuyerCredit

/-!
# Invoices

The invoice aggregate.  Its totals are derived from its lines; it is issued
once and paid at most once, by exactly its total.  The status and the payment
instant are one value in the source, so instants are left out.
-/

namespace OrderToCash.Billing

open OrderToCash.Contracts
open OrderToCash.Kernel

inductive InvoiceStatus
  | issued
  | paid
deriving DecidableEq, Repr

structure InvoiceLine where
  productCode : String
  units : Quantity
  unitPrice : Money
deriving DecidableEq, Repr

/-- The invoice aggregate, with the facts it has not published yet. -/
structure Invoice where
  id : UniqueId
  invoiceReference : Nat
  orderReference : OrderNumber
  retailerCode : String
  companyCode : String
  currency : CurrencyCode
  lines : List InvoiceLine
  amount : Money
  discount : Money
  totalAmount : Money
  status : InvoiceStatus
  domainEvents : List Fact
deriving DecidableEq, Repr

structure IssueInvoiceInput where
  id : UniqueId
  invoiceReference : Nat
  orderReference : OrderNumber
  retailerCode : String
  companyCode : String
  currency : CurrencyCode
  lines : List InvoiceLine
  discount : Money
deriving DecidableEq, Repr

structure MarkPaidInput where
  paymentReference : String
  amount : Money
  source : PaymentSource
deriving DecidableEq, Repr

def InvoiceLine.lineTotal (line : InvoiceLine) : Except KernelError Money :=
  line.unitPrice.multiply line.units

namespace Invoice

/-- All lines are in the invoice's currency. -/
def assertLineCurrency (currency : CurrencyCode) :
    List InvoiceLine → Except BillingError Unit
  | [] => .ok ()
  | line :: rest =>
      if line.unitPrice.currency ≠ currency then
        .error (.invoiceLineCurrencyMismatch currency line.unitPrice.currency)
      else
        assertLineCurrency currency rest

/-- Add the line totals to a sum. -/
def addLineTotals : Money → List InvoiceLine → Except KernelError Money
  | sum, [] => .ok sum
  | sum, line :: rest => do
      let lineTotal ← line.lineTotal
      let sum' ← sum.add lineTotal
      addLineTotals sum' rest

/-- The lines as the fact carries them. -/
def invoiceLinePayloadsOf (lines : List InvoiceLine) :
    List Contracts.InvoiceLine :=
  lines.map fun line =>
    { productCode := line.productCode
      units := line.units
      unitPrice := line.unitPrice.amount }

/-- Issue an invoice together with its fact. -/
def issue (input : IssueInvoiceInput) : Except BillingError Invoice :=
  if input.lines = [] then
    .error (.emptyInvoiceLines input.orderReference)
  else do
    assertLineCurrency input.currency input.lines
    let amount ←
      (addLineTotals ⟨0, input.currency⟩ input.lines).mapError .kernel
    let totalAmount ← (amount.subtract input.discount).mapError .kernel
    if totalAmount.isNegative then
      .error (.negativeInvoiceTotal amount.amount input.discount.amount
        input.currency)
    else
      .ok
        { id := input.id
          invoiceReference := input.invoiceReference
          orderReference := input.orderReference
          retailerCode := input.retailerCode
          companyCode := input.companyCode
          currency := input.currency
          lines := input.lines
          amount := amount
          discount := input.discount
          totalAmount := totalAmount
          status := .issued
          domainEvents := [.invoiceIssued
            { orderReference := input.orderReference
              invoiceReference := input.invoiceReference
              retailerCode := input.retailerCode
              companyCode := input.companyCode
              currency := input.currency
              lines := invoiceLinePayloadsOf input.lines
              amount := amount.amount
              discount := input.discount.amount
              totalAmount := totalAmount.amount }] }

/-- Rebuild a stored invoice; totals that do not follow from the lines are
refused. -/
def reconstitute (invoice : Invoice) : Except BillingError Invoice :=
  if invoice.lines.any (·.unitPrice.currency ≠ invoice.currency) then
    .error (.invalidInvoiceSnapshot invoice.id)
  else do
    let recomputedAmount ←
      (addLineTotals ⟨0, invoice.currency⟩ invoice.lines).mapError
        .kernel
    if recomputedAmount ≠ invoice.amount then
      .error (.invalidInvoiceSnapshot invoice.id)
    else do
      let recomputedTotal ←
        (recomputedAmount.subtract invoice.discount).mapError .kernel
      if recomputedTotal ≠ invoice.totalAmount then
        .error (.invalidInvoiceSnapshot invoice.id)
      else
        .ok { invoice with domainEvents := [] }

/-- Take an issued invoice to paid, with its fact. -/
def markPaid (invoice : Invoice) (input : MarkPaidInput) :
    Except BillingError Invoice :=
  if invoice.status = .paid then
    .error (.invoiceAlreadyPaid invoice.invoiceReference)
  else if input.amount.currency ≠ invoice.currency then
    .error (.invoicePaymentCurrencyMismatch invoice.currency
      input.amount.currency)
  else if input.amount ≠ invoice.totalAmount then
    .error (.invoicePaymentAmountMismatch invoice.totalAmount.amount
      input.amount.amount invoice.currency)
  else
    .ok
      { invoice with
        status := .paid
        domainEvents := invoice.domainEvents ++ [.paymentReceived
          { orderReference := invoice.orderReference
            invoiceReference := invoice.invoiceReference
            paymentReference := input.paymentReference
            currency := invoice.currency
            amount := input.amount.amount
            source := input.source }] }

end Invoice

end OrderToCash.Billing
