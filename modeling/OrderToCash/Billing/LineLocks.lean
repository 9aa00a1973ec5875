import OrderToCash.Billing.Repeats
import OrderToCash.Locking.Threads
import OrderToCash.Table.Grouping

/-!
# The locks of the Billing transactions

Every transaction first locks a credit line and then its whole ledger.  An
invoicing goes on to the order's invoice and, where it makes one, to the row of
the number sequence; a payment goes on to the invoice it was told to pay.
-/

namespace OrderToCash.Billing

open OrderToCash.Checked
open OrderToCash.Contracts
open OrderToCash.Kernel
open OrderToCash.Locking
open OrderToCash.Table

/-! ## What is locked -/

/-- What `FOR UPDATE` is taken on: a credit line, its ledger, the invoice of an
order, and the row the invoice numbers are counted in. -/
inductive Resource
  | line (retailerCode companyCode : String)
  | ledger (creditId : UniqueId)
  | invoice (order : OrderNumber)
  | invoiceNumbers
deriving DecidableEq, Repr

/-- What is read of a resource with its lock. -/
abbrev Resource.Value : Resource → Type
  | .line _ _ => Option CreditRow
  | .ledger _ => List CreditItemRow
  | .invoice _ => Option InvoiceRow
  | .invoiceNumbers => Nat

/-- A result as it is answered, with its error or without. -/
abbrev BillingResult := Except BillingError BillingReply

abbrev LineProgram := Program Resource.Value BillingDb BillingResult

namespace BillingDb

def readResource (db : BillingDb) : (resource : Resource) → resource.Value
  | .line retailerCode companyCode => db.findCredit retailerCode companyCode
  | .ledger creditId => db.creditItems.filter (·.creditId = creditId)
  | .invoice order => db.findByOrderReference order
  | .invoiceNumbers => db.nextInvoiceNumber

/-! ## The transactions after their loads -/

/-- A credit line as it was read, with an order's entries of the ledger that was
read for it. -/
def loadedCredit (row : CreditRow) (items : List CreditItemRow) (order : OrderNumber) :
    BuyerCredit :=
  { id := row.id
    code := row.code
    retailerCode := row.retailerCode
    companyCode := row.companyCode
    creditLimit := row.creditLimit
    currency := row.currencyCode
    committedExposure := (items.map exposureOfRow).sum
    loadedEntries :=
      (items.filter (·.orderReference = order)).map (·.toEntry row.currencyCode)
    appended := []
    domainEvents := [] }

/-- `CreditHoldHandler.hold` once its line is loaded. -/
def holdLoaded (db : BillingDb) (request : CreditHoldRequest) (amount : Money)
    (drawn : Bool) (credit : BuyerCredit) :
    Except BillingError (BillingDb × BillingReply) := do
  let holdRequest : HoldRequest := ⟨request.orderReference, amount⟩
  match credit.evaluateHold holdRequest with
  | .alreadyHeld heldAmount =>
      .ok (db, .alreadyHeld request.orderReference credit.code credit.currency
        heldAmount.amount credit.availableCredit)
  | .currencyMismatch expected =>
      .error (.creditCurrencyMismatch expected request.amount.currency)
  | .overLimit _ => db.refuse credit holdRequest .overLimit
  | .fits =>
      match simulatorDecide drawn amount.amount with
      | .refuse reason => db.refuse credit holdRequest reason
      | .approve => do
          let credit' ← credit.approveHold holdRequest (db.newId 0)
          .ok ((db.generated 1).saveCredit credit',
            .approved request.orderReference credit.code credit.currency
              amount.amount credit'.availableCredit)

theorem hold_eq (db : BillingDb) (request : CreditHoldRequest) (drawn : Bool) :
    db.hold request drawn =
      (Money.of request.amount.amount request.amount.currency.text).mapError .kernel >>=
        fun amount =>
          db.lockForOrder request.retailerCode request.companyCode
            request.orderReference >>= db.holdLoaded request amount drawn := rfl

/-- `CreditReleaseHandler.release` once its line is loaded. -/
def releaseLoaded (db : BillingDb) (request : CreditReleaseRequest)
    (credit : BuyerCredit) : Except BillingError (BillingDb × BillingReply) := do
  let released ←
    credit.releaseHold request.orderReference .orderCancelled (db.newId 0)
  match released with
  | none =>
      .ok (db, .released request.orderReference credit.code credit.currency none
        credit.availableCredit)
  | some (credit', entry) =>
      .ok ((db.generated 1).saveCredit credit',
        .released request.orderReference credit.code credit.currency
          (some entry.amount.amount) credit'.availableCredit)

theorem releaseCredit_eq (db : BillingDb) (request : CreditReleaseRequest) :
    db.releaseCredit request =
      db.lockForOrder request.retailerCode request.companyCode
        request.orderReference >>= db.releaseLoaded request := rfl

/-- `InvoiceIssueHandler.issue` once its line and the order's invoice are read,
with the number that is allocated where an invoice is made. -/
def issueLoaded (db : BillingDb) (request : InvoiceIssueRequest)
    (credit : BuyerCredit) (existing : Option InvoiceRow) (number : Nat) :
    Except BillingError (BillingDb × BillingReply) := do
  let order := request.orderReference
  match existing with
  | some existing => .ok (db, replyFromSnapshot existing false)
  | none =>
      if request.currency ≠ credit.currency.text then
        .error (.invoiceCurrencyMismatch credit.currency request.currency)
      else if credit.summary.amountOf order OrderExposure.activeHold ≤ 0 then
        .error (.noActiveCreditHold order)
      else do
        let lines ← (requestLines request.currency request.lines).mapError .kernel
        let discount ←
          (Money.of request.discount request.currency).mapError .kernel
        let invoice ← Invoice.issue
          { id := db.newId 0
            invoiceReference := number
            orderReference := order
            retailerCode := request.retailerCode
            companyCode := request.companyCode
            currency := credit.currency
            lines := lines
            discount := discount }
        let credit' ← credit.consumeHold order (db.newId 1)
        let allocated := { db.generated 2 with nextInvoiceNumber := number + 1 }
        let db' ← allocated.saveInvoice invoice
        .ok (db'.saveCredit credit', replyFromSnapshot (toInvoiceRow invoice) true)

theorem issueInvoice_eq (db : BillingDb) (request : InvoiceIssueRequest) :
    db.issueInvoice request =
      db.lockForOrder request.retailerCode request.companyCode
        request.orderReference >>= fun credit =>
          db.issueLoaded request credit (db.findByOrderReference request.orderReference)
            db.nextInvoiceNumber := rfl

/-- An invoicing allocates a number where the order has no invoice, and credit
held in the currency of the request. -/
def AllocatesNumber (request : InvoiceIssueRequest) (credit : BuyerCredit)
    (existing : Option InvoiceRow) : Prop :=
  existing = none ∧ request.currency = credit.currency.text ∧
    0 < credit.summary.amountOf request.orderReference OrderExposure.activeHold

instance (request : InvoiceIssueRequest) (credit : BuyerCredit)
    (existing : Option InvoiceRow) :
    Decidable (AllocatesNumber request credit existing) :=
  inferInstanceAs (Decidable (_ ∧ _))

/-- `PaymentRegisterHandler.register` once its line and its invoice are read. -/
def registerLoaded (db : BillingDb) (request : PaymentRegisterRequest)
    (invoiceSnapshot : InvoiceRow) (credit : BuyerCredit)
    (lockedSnapshot : Option InvoiceRow) :
    Except BillingError (BillingDb × BillingReply) := do
  match lockedSnapshot with
  | none => .error (.invoiceNotFound (.invoiceId invoiceSnapshot.id.text))
  | some lockedSnapshot => do
      let invoice ← lockedSnapshot.toInvoiceSnapshot.reconstitute
      match db.paidByRequest invoice request with
      | some paidBy => .ok (db, replyFromDuplicate lockedSnapshot paidBy)
      | none => do
          let amount ←
            (Money.of request.amount.amount request.amount.currency.text).mapError
              .kernel
          let invoice' ←
            invoice.markPaid
              ⟨request.paymentReference.text, amount, request.source⟩
          let released ←
            credit.releaseHold invoiceSnapshot.orderReference .invoicePaid
              (db.newId 0)
          let credit' := (released.map Prod.fst).getD credit
          let db' ←
            (db.generated 2).markPaid invoice' (db.paymentRow request invoice'.id)
          .ok (db'.saveCredit credit',
            .payment .accepted request.paymentReference
              invoice'.invoiceReference invoice'.orderReference invoice'.status)

theorem registerPayment_eq (db : BillingDb) (request : PaymentRegisterRequest)
    (invoiceSnapshot : InvoiceRow) :
    db.registerPayment request invoiceSnapshot =
      db.lockForOrder invoiceSnapshot.retailerCode invoiceSnapshot.companyCode
        invoiceSnapshot.orderReference >>= fun credit =>
          db.registerLoaded request invoiceSnapshot credit
            (db.findById invoiceSnapshot.id) := rfl

end BillingDb

/-! ## The transactions, lock by lock -/

/-- Commit what was decided, or roll back with its error. -/
def commitOrRollBack (db : BillingDb) :
    Except BillingError (BillingDb × BillingReply) → BillingDb × BillingResult
  | .ok (db', reply) => (db', .ok reply)
  | .error error => (db, .error error)

/-- Roll back with an error. -/
def fail (error : BillingError) : LineProgram := .publish fun db => (db, .error error)

/-- Lock a credit line, then its ledger, and go on with an order's entries on it. -/
def lockCredit (retailerCode companyCode : String) (order : OrderNumber)
    (next : BuyerCredit → LineProgram) : LineProgram :=
  .lock (.line retailerCode companyCode) fun found : Option CreditRow =>
    match found with
    | none => fail (.creditLineNotFound retailerCode companyCode)
    | some row =>
        .lock (.ledger row.id) fun items =>
          match (BillingDb.loadedCredit row items order).reconstitute with
          | .error error => fail error
          | .ok credit => next credit

/-- The transaction of a call, with the draw a hold may ask for. -/
def lineProgram (drawn : Bool) : BillingCall → Option LineProgram
  | .creditHold request =>
      some (match (Money.of request.amount.amount request.amount.currency.text).mapError
          BillingError.kernel with
        | .error error => fail error
        | .ok amount =>
            lockCredit request.retailerCode request.companyCode request.orderReference
              fun credit => .publish fun db =>
                commitOrRollBack db (db.holdLoaded request amount drawn credit))
  | .creditRelease request =>
      some (lockCredit request.retailerCode request.companyCode request.orderReference
        fun credit => .publish fun db => commitOrRollBack db (db.releaseLoaded request credit))
  | .invoiceIssue request =>
      some (lockCredit request.retailerCode request.companyCode request.orderReference
        fun credit => .lock (.invoice request.orderReference) fun existing =>
          if BillingDb.AllocatesNumber request credit existing then
            .lock .invoiceNumbers fun number => .publish fun db =>
              commitOrRollBack db (db.issueLoaded request credit existing number)
          else
            .publish fun db => commitOrRollBack db
              (db.issueLoaded request credit existing db.nextInvoiceNumber))
  | .paymentLooked _ => none
  | .paymentRegister request snapshot =>
      some (lockCredit snapshot.retailerCode snapshot.companyCode
        snapshot.orderReference fun credit =>
          .lock (.invoice snapshot.orderReference) fun found : Option InvoiceRow =>
            .publish fun db => commitOrRollBack db (db.registerLoaded request snapshot credit
              (found.filter (·.id = snapshot.id))))

/-! ## Run on their own, they are the transactions -/

section Run

variable {db : BillingDb}

theorem loadedCredit_eq (db : BillingDb) (row : CreditRow) (order : OrderNumber) :
    BillingDb.loadedCredit row (db.creditItems.filter (·.creditId = row.id)) order =
      db.toBuyerCreditSnapshot row order := by
  have own : (db.creditItems.filter (·.creditId = row.id)).filter
      (·.orderReference = order) = db.itemsOf row.id order := by
    rw [List.filter_filter, BillingDb.itemsOf]
    simp only [Bool.decide_and, Bool.and_comm]
  rw [BillingDb.loadedCredit, own]
  rfl

/-- A load locks the line and its ledger, and refuses what the plain load does. -/
theorem run_lockCredit (retailerCode companyCode : String) (order : OrderNumber)
    (next : BuyerCredit → LineProgram)
    (body : BuyerCredit → Except BillingError (BillingDb × BillingReply))
    (goesOn : ∀ credit, (next credit).run BillingDb.readResource db =
      commitOrRollBack db (body credit)) :
    (lockCredit retailerCode companyCode order next).run BillingDb.readResource db =
      commitOrRollBack db (db.lockForOrder retailerCode companyCode order >>= body) := by
  have line : db.readResource (.line retailerCode companyCode) =
      db.findCredit retailerCode companyCode := rfl
  rw [lockCredit, Program.run, line, BillingDb.lockForOrder]
  cases db.findCredit retailerCode companyCode with
  | none => rfl
  | some row =>
      have loaded := loadedCredit_eq db row order
      simp only [Program.run, BillingDb.readResource, loaded]
      cases (db.toBuyerCreditSnapshot row order).reconstitute with
      | error error => rfl
      | ok credit => exact goesOn credit

/-- The invoice a resolved payment locks is found by its order as by itself. -/
theorem findById_of_resolved (sound : db.Sound) {request : PaymentRegisterRequest}
    {snapshot : InvoiceRow}
    (resolved : (BillingCall.paymentRegister request snapshot).Resolved db) :
    (db.findByOrderReference snapshot.orderReference).filter (·.id = snapshot.id) =
      db.findById snapshot.id := by
  rcases resolved with ⟨row, resolvedTo, isLater⟩
  have stored := BillingDb.mem_of_resolveInvoice resolvedTo
  have byId := BillingDb.findById_of_mem sound stored
  have byOrder : db.findByOrderReference row.orderReference = some row :=
    find?_key_of_mem sound.invoiceOrders stored
  rw [isLater.fields.1] at byId
  rw [isLater.fields.2.1] at byOrder
  rw [byOrder, byId, Option.filter_some, if_pos (decide_eq_true isLater.fields.1)]

/-- What a call does lock by lock, run on its own, is its transaction. -/
theorem run_lineProgram (sound : db.Sound) {drawn : Bool} {call : BillingCall}
    (resolved : call.Resolved db) {program : LineProgram}
    (isProgram : lineProgram drawn call = some program) :
    ∃ result, BillingSystem.transaction db drawn call = some result ∧
      program.run BillingDb.readResource db = commitOrRollBack db result := by
  cases call with
  | creditHold request =>
      cases isProgram
      refine ⟨_, rfl, ?_⟩
      rw [BillingDb.hold_eq]
      cases (Money.of request.amount.amount request.amount.currency.text).mapError
        BillingError.kernel with
      | error error => rfl
      | ok amount =>
          exact run_lockCredit _ _ _ _ (db.holdLoaded request amount drawn) fun _ => rfl
  | creditRelease request =>
      cases isProgram
      exact ⟨_, rfl, run_lockCredit _ _ _ _ (db.releaseLoaded request) fun _ => rfl⟩
  | invoiceIssue request =>
      cases isProgram
      refine ⟨_, rfl, run_lockCredit _ _ _ _ _ fun credit => ?_⟩
      simp only [Program.run]
      split
      · rfl
      · rfl
  | paymentLooked request => cases isProgram
  | paymentRegister request snapshot =>
      cases isProgram
      refine ⟨_, rfl, run_lockCredit _ _ _ _ _ fun credit => ?_⟩
      have found := findById_of_resolved sound resolved
      simp only [Program.run, BillingDb.readResource]
      rw [found]
      rfl

end Run

end OrderToCash.Billing
