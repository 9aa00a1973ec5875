import OrderToCash.Billing.Invoice

/-!
# The Billing database

The credit lines, their ledger, the invoices and the payments, with the locked
loads and the inserts the repositories run on them.  Ledger rows are only ever
inserted.  The lines of an invoice are kept with it: they are written with it
and never again.
-/

namespace OrderToCash.Billing

open OrderToCash.Contracts
open OrderToCash.Kernel

/-- A row of `credits`. -/
structure CreditRow where
  id : UniqueId
  code : String
  retailerCode : String
  companyCode : String
  creditLimit : Int
  currencyCode : CurrencyCode
deriving DecidableEq, Repr

/-- A row of `credit_items`; its currency is its credit line's. -/
structure CreditItemRow where
  id : UniqueId
  creditId : UniqueId
  orderReference : OrderNumber
  amount : Int
  type : CreditEntryType
deriving DecidableEq, Repr

/-- A row of `invoice_items`. -/
structure InvoiceItemRow where
  productCode : String
  units : Quantity
  price : Int
deriving DecidableEq, Repr

/-- A row of `invoices`, with its items. -/
structure InvoiceRow where
  id : UniqueId
  invoiceReference : Nat
  companyCode : String
  retailerCode : String
  orderReference : OrderNumber
  amount : Int
  discount : Int
  totalAmount : Int
  currencyCode : CurrencyCode
  status : InvoiceStatus
  items : List InvoiceItemRow
deriving DecidableEq, Repr

/-- A row of `payments`. -/
structure PaymentRow where
  id : UniqueId
  paymentReference : PaymentReference
  invoiceId : UniqueId
  amount : Int
  currencyCode : CurrencyCode
  source : PaymentSource
deriving DecidableEq, Repr

structure BillingDb where
  credits : List CreditRow
  creditItems : List CreditItemRow
  invoices : List InvoiceRow
  payments : List PaymentRow
  outbox : List Fact
  nextId : Nat
  nextInvoiceNumber : Nat
deriving DecidableEq, Repr

def CreditItemRow.toEntry (currency : CurrencyCode) (row : CreditItemRow) :
    CreditLedgerEntry :=
  { id := row.id
    orderReference := row.orderReference
    amount := ⟨row.amount, currency⟩
    type := row.type }

def toCreditItemRow (creditId : UniqueId) (entry : CreditLedgerEntry) :
    CreditItemRow :=
  { id := entry.id
    creditId := creditId
    orderReference := entry.orderReference
    amount := entry.amount.amount
    type := entry.type }

def InvoiceRow.toInvoiceSnapshot (row : InvoiceRow) : Invoice :=
  { id := row.id
    invoiceReference := row.invoiceReference
    orderReference := row.orderReference
    retailerCode := row.retailerCode
    companyCode := row.companyCode
    currency := row.currencyCode
    lines := row.items.map fun item =>
      { productCode := item.productCode
        units := item.units
        unitPrice := ⟨item.price, row.currencyCode⟩ }
    amount := ⟨row.amount, row.currencyCode⟩
    discount := ⟨row.discount, row.currencyCode⟩
    totalAmount := ⟨row.totalAmount, row.currencyCode⟩
    status := row.status
    domainEvents := [] }

def toInvoiceRow (invoice : Invoice) : InvoiceRow :=
  { id := invoice.id
    invoiceReference := invoice.invoiceReference
    companyCode := invoice.companyCode
    retailerCode := invoice.retailerCode
    orderReference := invoice.orderReference
    amount := invoice.amount.amount
    discount := invoice.discount.amount
    totalAmount := invoice.totalAmount.amount
    currencyCode := invoice.currency
    status := invoice.status
    items := invoice.lines.map fun line =>
      { productCode := line.productCode
        units := line.units
        price := line.unitPrice.amount } }

namespace BillingDb

/-! ## Loads -/

/-- What a ledger row adds to the committed exposure of its line. -/
def exposureOfRow (row : CreditItemRow) : Int :=
  match row.type with
  | .hold => row.amount
  | .release => -row.amount
  | .consume => 0

/-- The committed exposure of a line, over its whole ledger. -/
def committedExposure (db : BillingDb) (creditId : UniqueId) : Int :=
  ((db.creditItems.filter (·.creditId = creditId)).map exposureOfRow).sum

/-- The ledger rows of an order on a line. -/
def itemsOf (db : BillingDb) (creditId : UniqueId) (order : OrderNumber) :
    List CreditItemRow :=
  db.creditItems.filter fun row =>
    row.creditId = creditId ∧ row.orderReference = order

/-- A credit line as its row, its committed exposure and an order's entries. -/
def toBuyerCreditSnapshot (db : BillingDb) (row : CreditRow)
    (order : OrderNumber) : BuyerCredit :=
  { id := row.id
    code := row.code
    retailerCode := row.retailerCode
    companyCode := row.companyCode
    creditLimit := row.creditLimit
    currency := row.currencyCode
    committedExposure := db.committedExposure row.id
    loadedEntries := (db.itemsOf row.id order).map (·.toEntry row.currencyCode)
    appended := []
    domainEvents := [] }

def findCredit (db : BillingDb) (retailerCode companyCode : String) :
    Option CreditRow :=
  db.credits.find? fun row =>
    row.retailerCode = retailerCode ∧ row.companyCode = companyCode

/-- Lock a credit line and load one order's entries on it. -/
def lockForOrder (db : BillingDb) (retailerCode companyCode : String)
    (order : OrderNumber) : Except BillingError BuyerCredit :=
  match db.findCredit retailerCode companyCode with
  | none => .error (.creditLineNotFound retailerCode companyCode)
  | some row => (db.toBuyerCreditSnapshot row order).reconstitute

def findByOrderReference (db : BillingDb) (order : OrderNumber) :
    Option InvoiceRow :=
  db.invoices.find? (·.orderReference = order)

def findById (db : BillingDb) (id : UniqueId) : Option InvoiceRow :=
  db.invoices.find? (·.id = id)

def findByInvoiceReference (db : BillingDb) (reference : Nat) :
    Option InvoiceRow :=
  db.invoices.find? (·.invoiceReference = reference)

/-- The column compares by weight. -/
def findPaymentByReference (db : BillingDb) (paymentReference : PaymentReference) :
    Option PaymentRow :=
  db.payments.find? (·.paymentReference.weight = paymentReference.weight)

def findPaymentByInvoiceId (db : BillingDb) (invoiceId : UniqueId) :
    Option PaymentRow :=
  db.payments.find? (·.invoiceId = invoiceId)

/-! ## Writes -/

/-- Insert the entries a credit line appended and record its facts. -/
def saveCredit (db : BillingDb) (credit : BuyerCredit) : BillingDb :=
  { db with
    creditItems := db.creditItems ++ credit.appended.map (toCreditItemRow credit.id)
    outbox := db.outbox ++ credit.domainEvents }

/-- Insert an invoice and record its facts; its order reference is unique. -/
def saveInvoice (db : BillingDb) (invoice : Invoice) :
    Except BillingError BillingDb :=
  if (db.findByOrderReference invoice.orderReference).isSome then
    .error (.duplicateInvoice invoice.orderReference)
  else
    .ok
      { db with
        invoices := db.invoices ++ [toInvoiceRow invoice]
        outbox := db.outbox ++ invoice.domainEvents }

/-- Set an invoice's status and insert its payment, whose reference is unique,
then record the invoice's facts. -/
def markPaid (db : BillingDb) (invoice : Invoice) (payment : PaymentRow) :
    Except BillingError BillingDb :=
  if (db.findPaymentByReference payment.paymentReference).isSome then
    .error (.paymentReferenceConflict payment.paymentReference.text)
  else
    .ok
      { db with
        invoices := db.invoices.map fun row =>
          if row.id = invoice.id then { row with status := invoice.status }
          else row
        payments := db.payments ++ [payment]
        outbox := db.outbox ++ invoice.domainEvents }

end BillingDb

end OrderToCash.Billing
