import OrderToCash.Billing.Bookings
import OrderToCash.Log.Journal

/-!
# What Billing announces

The outbox is a journal of Billing's tables.  The holds and releases of the
credit ledger, the invoices and the payments are each told of once, in the order
they were made and with what their rows say, and nothing else is told.  A
consumption is not announced on its own; it comes with its invoice.
-/

namespace OrderToCash.Billing

open OrderToCash.Checked
open OrderToCash.Contracts
open OrderToCash.Kernel
open OrderToCash.Log
open OrderToCash.Transition

/-! ## What the facts tell -/

/-- Credit of a line tied up for an order, or given back. -/
structure CreditMovement where
  orderReference : OrderNumber
  retailerCode : String
  companyCode : String
  creditCode : String
  currency : CurrencyCode
  type : CreditEntryType
  amount : Int
deriving DecidableEq, Repr

def creditMovement? : Fact → Option CreditMovement
  | .creditApproved payload =>
      some
        { orderReference := payload.orderReference
          retailerCode := payload.retailerCode
          companyCode := payload.companyCode
          creditCode := payload.creditCode
          currency := payload.currency
          type := .hold
          amount := payload.heldAmount }
  | .creditReleased payload =>
      some
        { orderReference := payload.orderReference
          retailerCode := payload.retailerCode
          companyCode := payload.companyCode
          creditCode := payload.creditCode
          currency := payload.currency
          type := .release
          amount := payload.releasedAmount }
  | _ => none

def invoiceIssued? : Fact → Option InvoiceIssuedPayload
  | .invoiceIssued payload => some payload
  | _ => none

def paymentReceived? : Fact → Option PaymentReceivedPayload
  | .paymentReceived payload => some payload
  | _ => none

/-- What a credit line tells. -/
def creditFacts : List EventType := [.creditApproved, .creditRejected, .creditReleased]

/-! ## What the rows say -/

/-- A movement on the line. -/
def CreditRow.movement (line : CreditRow) (order : OrderNumber)
    (type : CreditEntryType) (amount : Int) : CreditMovement :=
  { orderReference := order
    retailerCode := line.retailerCode
    companyCode := line.companyCode
    creditCode := line.code
    currency := line.currencyCode
    type := type
    amount := amount }

/-- An invoice as it is announced; its status is not part of that. -/
def InvoiceRow.announcement (row : InvoiceRow) : InvoiceIssuedPayload :=
  { orderReference := row.orderReference
    invoiceReference := row.invoiceReference
    retailerCode := row.retailerCode
    companyCode := row.companyCode
    currency := row.currencyCode
    lines := row.items.map fun item =>
      { productCode := item.productCode
        units := item.units
        unitPrice := item.price }
    amount := row.amount
    discount := row.discount
    totalAmount := row.totalAmount }

/-- A payment of the invoice as it is announced. -/
def PaymentRow.announcement (payment : PaymentRow) (invoice : InvoiceRow) :
    PaymentReceivedPayload :=
  { orderReference := invoice.orderReference
    invoiceReference := invoice.invoiceReference
    paymentReference := payment.paymentReference.text
    currency := payment.currencyCode
    amount := payment.amount
    source := payment.source }

/-- Only holds and releases are announced. -/
def CreditItemRow.IsAnnounced (row : CreditItemRow) : Bool := row.type ≠ .consume

namespace BillingDb

/-- The movement is the ledger row's, on its line. -/
def Moves (db : BillingDb) (movement : CreditMovement) (row : CreditItemRow) : Prop :=
  ∃ line ∈ db.credits, line.id = row.creditId ∧
    movement = line.movement row.orderReference row.type row.amount

/-- The payment is of an invoice, all of it. -/
def Settles (db : BillingDb) (payload : PaymentReceivedPayload) (payment : PaymentRow) :
    Prop :=
  ∃ invoice ∈ db.invoices, invoice.id = payment.invoiceId ∧
    payload = payment.announcement invoice ∧
      payment.amount = invoice.totalAmount ∧
        payment.currencyCode = invoice.currencyCode

/-- The outbox is a journal of the ledger, of the invoices and of the payments,
and tells of nothing else.  Invoices are numbered without a gap. -/
structure Documented (db : BillingDb) : Prop where
  movements : Journal creditMovement? db.Moves db.outbox
    (db.creditItems.filter (·.IsAnnounced))
  invoices : Journal invoiceIssued? (fun payload row => payload = row.announcement)
    db.outbox db.invoices
  payments : Journal paymentReceived? db.Settles db.outbox db.payments
  numbered : db.invoices.map (·.invoiceReference) = List.range' 1 db.invoices.length
  next : db.nextInvoiceNumber = db.invoices.length + 1
  facts : ∀ fact ∈ db.outbox,
    fact.eventType ∈ creditFacts ++ [.invoiceIssued, .paymentReceived]

/-- What is consumed of the ledger is consumed by the invoices, one for one. -/
structure Announced (db : BillingDb) : Prop extends Documented db where
  consumptions : (db.creditItems.filter (·.type = .consume)).map (·.orderReference) =
    db.invoices.map (·.orderReference)

end BillingDb

/-! ## What a credit line records -/

namespace BuyerCredit

/-- What the credit line has appended since it was loaded, its facts tell. -/
structure Told (line : CreditRow) (credit : BuyerCredit) : Prop where
  id : credit.id = line.id
  ofLine : ∀ order type amount,
    ({ orderReference := order
       retailerCode := credit.retailerCode
       companyCode := credit.companyCode
       creditCode := credit.code
       currency := credit.currency
       type := type
       amount := amount } : CreditMovement) = line.movement order type amount
  movements : Journal creditMovement?
    (fun movement entry =>
      movement = line.movement entry.orderReference entry.type entry.amount.amount)
    credit.domainEvents (credit.appended.filter (·.type ≠ .consume))
  facts : ∀ fact ∈ credit.domainEvents, fact.eventType ∈ creditFacts

variable {line : CreditRow} {credit credit' : BuyerCredit}

theorem told_snapshot (db : BillingDb) (line : CreditRow) (order : OrderNumber) :
    (db.toBuyerCreditSnapshot line order).Told line where
  id := rfl
  ofLine _ _ _ := rfl
  movements := Journal.empty
  facts := List.forall_mem_nil _

/-- An announced entry comes with its fact. -/
theorem Told.append (told : credit.Told line) {entry : CreditLedgerEntry} (committed : Int)
    {fact : Fact} (announced : entry.type ≠ .consume)
    (tells : creditMovement? fact =
      some (line.movement entry.orderReference entry.type entry.amount.amount))
    (type : fact.eventType ∈ creditFacts) :
    ((credit.append entry committed).addDomainEvent fact).Told line where
  id := told.id
  ofLine := told.ofLine
  movements := by
    have appended : (credit.appended ++ [entry]).filter (·.type ≠ .consume) =
        credit.appended.filter (·.type ≠ .consume) ++ [entry] := by
      rw [List.filter_append, List.filter_singleton, decide_eq_true announced]
      rfl
    change Journal _ _ (credit.domainEvents ++ [fact])
      ((credit.appended ++ [entry]).filter (·.type ≠ .consume))
    rw [appended]
    apply told.movements.append
    rw [List.filterMap_cons_some tells]
    exact .cons rfl .nil
  facts := by
    intro other otherMem
    rcases List.mem_append.mp otherMem with before | new
    · exact told.facts other before
    · rwa [List.mem_singleton.mp new]

theorem Told.approveHold (told : credit.Told line) {request : HoldRequest}
    {newId : UniqueId} (approved : credit.approveHold request newId = .ok credit') :
    credit'.Told line := by
  unfold BuyerCredit.approveHold at approved
  split at approved
  · cases approved
    exact told.append _ (by simp) (congrArg some (told.ofLine _ _ _))
      (by simp [Fact.eventType, creditFacts])
  · cases approved

theorem Told.refuseHold (told : credit.Told line) {request : HoldRequest}
    {reason : CreditRejectionReason}
    (refused : credit.refuseHold request reason = .ok credit') : credit'.Told line := by
  simp only [BuyerCredit.refuseHold, ite_error_eq_ok_iff, Except.ok.injEq] at refused
  rcases refused with ⟨_, rfl⟩
  exact
    { id := told.id
      ofLine := told.ofLine
      movements := told.movements.silent rfl
      facts := by
        intro fact factMem
        rcases List.mem_append.mp factMem with before | new
        · exact told.facts fact before
        · rw [List.mem_singleton.mp new]
          simp [Fact.eventType, creditFacts] }

/-- Nothing is released where nothing is held. -/
theorem Told.releaseHold (told : credit.Told line) {order : OrderNumber}
    {reason : CreditReleaseReason} {newId : UniqueId}
    {released : Option (BuyerCredit × CreditLedgerEntry)}
    (accepted : credit.releaseHold order reason newId = .ok released) :
    ((released.map Prod.fst).getD credit).Told line := by
  simp only [BuyerCredit.releaseHold, ite_error_eq_ok_iff] at accepted
  rcases accepted with ⟨_, accepted⟩
  split at accepted
  · cases accepted
    exact told
  · cases accepted
    exact told.append _ (by simp) (congrArg some (told.ofLine _ _ _))
      (by simp [Fact.eventType, creditFacts])

theorem Told.consumeHold (told : credit.Told line) {order : OrderNumber}
    {newId : UniqueId} (consumed : credit.consumeHold order newId = .ok credit') :
    credit'.Told line := by
  simp only [BuyerCredit.consumeHold, ite_error_eq_ok_iff, Except.ok.injEq] at consumed
  rcases consumed with ⟨_, rfl⟩
  exact
    { id := told.id
      ofLine := told.ofLine
      movements := by
        simpa [BuyerCredit.append] using told.movements
      facts := told.facts }

/-- A release consumes nothing. -/
theorem releaseHold_unconsumed {order : OrderNumber} {reason : CreditReleaseReason}
    {newId : UniqueId} {released : Option (BuyerCredit × CreditLedgerEntry)}
    (accepted : credit.releaseHold order reason newId = .ok released)
    (loaded : credit.appended = []) :
    ((released.map Prod.fst).getD credit).appended.filter (·.type = .consume) = [] := by
  simp only [BuyerCredit.releaseHold, ite_error_eq_ok_iff] at accepted
  rcases accepted with ⟨_, accepted⟩
  split at accepted
  · cases accepted
    simp [loaded]
  · cases accepted
    simp [BuyerCredit.append, BuyerCredit.addDomainEvent, loaded]

end BuyerCredit

/-! ## What the writes record -/

namespace BillingDb

variable {db : BillingDb}

/-- The facts of a line say nothing of invoices and payments. -/
theorem creditFacts_silent {events : List Fact}
    (facts : ∀ fact ∈ events, fact.eventType ∈ creditFacts) :
    events.filterMap invoiceIssued? = [] ∧ events.filterMap paymentReceived? = [] := by
  constructor
  · apply List.filterMap_eq_nil_iff.mpr
    intro fact factMem
    have type := facts fact factMem
    cases fact with
    | invoiceIssued payload => simp [Fact.eventType, creditFacts] at type
    | _ => rfl
  · apply List.filterMap_eq_nil_iff.mpr
    intro fact factMem
    have type := facts fact factMem
    cases fact with
    | paymentReceived payload => simp [Fact.eventType, creditFacts] at type
    | _ => rfl

/-- Saving a line inserts what it tells. -/
theorem Documented.saveCredit (documented : db.Documented) {credit : BuyerCredit}
    {line : CreditRow} (told : credit.Told line) (lineMem : line ∈ db.credits) :
    (db.saveCredit credit).Documented where
  movements := by
    have inserted : (credit.appended.map (toCreditItemRow credit.id)).filter
        (·.IsAnnounced) =
          (credit.appended.filter (·.type ≠ .consume)).map (toCreditItemRow credit.id) := by
      rw [List.filter_map]
      rfl
    have entries : Journal creditMovement? db.Moves credit.domainEvents
        ((credit.appended.filter (·.type ≠ .consume)).map (toCreditItemRow credit.id)) :=
      told.movements.change fun movement entry _ tells =>
        ⟨line, lineMem, told.id.symm, tells⟩
    rw [← inserted] at entries
    change Journal _ db.Moves (db.outbox ++ credit.domainEvents)
      ((db.creditItems ++ credit.appended.map (toCreditItemRow credit.id)).filter _)
    rw [List.filter_append]
    exact documented.movements.append entries
  invoices := documented.invoices.silent (creditFacts_silent told.facts).1
  payments := documented.payments.silent (creditFacts_silent told.facts).2
  numbered := documented.numbered
  next := documented.next
  facts := by
    intro fact factMem
    rcases List.mem_append.mp factMem with before | new
    · exact documented.facts fact before
    · exact List.mem_append_left _ (told.facts fact new)

/-- A line that consumes nothing is saved with its facts. -/
theorem Announced.saveCredit (announced : db.Announced) {credit : BuyerCredit}
    {line : CreditRow} (told : credit.Told line) (lineMem : line ∈ db.credits)
    (none : credit.appended.filter (·.type = .consume) = []) :
    (db.saveCredit credit).Announced where
  toDocumented := announced.toDocumented.saveCredit told lineMem
  consumptions := by
    have unconsumed : (credit.appended.map (toCreditItemRow credit.id)).filter
        (·.type = .consume) = [] := by
      rw [List.filter_map]
      exact List.map_eq_nil_iff.mpr none
    change ((db.creditItems ++ _).filter _).map _ = _
    rw [List.filter_append, unconsumed, List.append_nil]
    exact announced.consumptions

/-! ## What an invoice records -/

/-- An invoice is issued with its announcement. -/
theorem issue_announces {input : IssueInvoiceInput} {invoice : Invoice}
    (issued : Invoice.issue input = .ok invoice) :
    invoice.domainEvents = [.invoiceIssued (toInvoiceRow invoice).announcement] := by
  simp only [Invoice.issue, ite_error_eq_ok_iff] at issued
  rcases issued with ⟨_, issued⟩
  rcases bind_eq_ok_iff.mp issued with ⟨checked, _, issued⟩
  rcases bind_eq_ok_iff.mp issued with ⟨amount, _, issued⟩
  rcases bind_eq_ok_iff.mp issued with ⟨total, _, issued⟩
  simp only [ite_error_eq_ok_iff, Except.ok.injEq] at issued
  rcases issued with ⟨_, rfl⟩
  simp only [toInvoiceRow, InvoiceRow.announcement, Invoice.invoiceLinePayloadsOf,
    List.map_map]
  rfl

/-- The invoice with the next number is stored with its announcement. -/
theorem Documented.storeInvoice (documented : db.Documented) {invoice : Invoice}
    (events : invoice.domainEvents = [.invoiceIssued (toInvoiceRow invoice).announcement])
    (reference : invoice.invoiceReference = db.nextInvoiceNumber) (nextId : Nat) :
    ({ db with
        nextId := nextId
        nextInvoiceNumber := db.nextInvoiceNumber + 1
        invoices := db.invoices ++ [toInvoiceRow invoice]
        outbox := db.outbox ++ invoice.domainEvents } : BillingDb).Documented where
  movements := by
    rw [events]
    exact documented.movements.silent rfl
  invoices := by
    rw [events]
    exact documented.invoices.append (.cons rfl .nil)
  payments := by
    rw [events]
    apply (documented.payments.silent rfl).imp
    rintro payload payment _ ⟨paid, paidMem, settles⟩
    exact ⟨paid, List.mem_append_left _ paidMem, settles⟩
  numbered := by
    have number : (toInvoiceRow invoice).invoiceReference = 1 + db.invoices.length := by
      rw [Nat.add_comm, ← documented.next]
      exact reference
    simp only [List.map_append, List.map_singleton, List.length_append,
      List.length_singleton, documented.numbered, List.range'_concat, Nat.one_mul, number]
  next := by
    simp only [List.length_append, List.length_singleton, documented.next]
  facts := by
    intro fact factMem
    rcases List.mem_append.mp factMem with before | new
    · exact documented.facts fact before
    · rw [events, List.mem_singleton] at new
      rw [new]
      simp [Fact.eventType]

theorem Announced.issueInvoice {db' : BillingDb} (announced : db.Announced)
    {request : InvoiceIssueRequest} {reply : BillingReply}
    (result : db.issueInvoice request = .ok (db', reply)) : db'.Announced := by
  unfold BillingDb.issueInvoice at result
  rcases bind_eq_ok_iff.mp result with ⟨credit, locked, result⟩
  rcases lockForOrder_eq_ok locked with ⟨line, found, rfl⟩
  split at result
  · cases result
    exact announced
  · simp only [ite_error_eq_ok_iff] at result
    rcases result with ⟨_, _, result⟩
    rcases bind_eq_ok_iff.mp result with ⟨lines, _, result⟩
    rcases bind_eq_ok_iff.mp result with ⟨discount, _, result⟩
    rcases bind_eq_ok_iff.mp result with ⟨invoice, issued, result⟩
    rcases bind_eq_ok_iff.mp result with ⟨credit', consumed, result⟩
    rcases bind_eq_ok_iff.mp result with ⟨saved, savedInvoice, result⟩
    have told := (BuyerCredit.told_snapshot db line request.orderReference).consumeHold
      consumed
    rcases issue_eq_ok issued with ⟨_, _, _, _, _, reference, ofOrder, _, _⟩
    simp only [BuyerCredit.consumeHold, ite_error_eq_ok_iff, Except.ok.injEq] at consumed
    rcases consumed with ⟨_, rfl⟩
    simp only [saveInvoice, ite_error_eq_ok_iff, Except.ok.injEq] at savedInvoice
    rcases savedInvoice with ⟨_, rfl⟩
    cases result
    have stored := announced.storeInvoice (issue_announces issued) reference (db.nextId + 2)
    exact
      { toDocumented := stored.saveCredit told (findCredit_eq_some found).1
        consumptions := by
          change ((db.creditItems ++ [_]).filter _).map _ =
            (db.invoices ++ [toInvoiceRow invoice]).map _
          rw [List.filter_append, List.map_append, List.map_append,
            announced.consumptions]
          exact congrArg (_ ++ [·]) ofOrder.symm }

/-! ## What a payment records -/

/-- What is paid of an invoice does not depend on its status. -/
theorem Settles.mark {payload : PaymentReceivedPayload} {payment : PaymentRow}
    (settles : db.Settles payload payment) (mark : InvoiceRow → Prop)
    [DecidablePred mark] (status : InvoiceStatus) :
    ({ db with
        invoices := db.invoices.map fun row =>
          if mark row then { row with status := status } else row } : BillingDb).Settles
      payload payment := by
  rcases settles with ⟨invoice, invoiceMem, settles⟩
  refine ⟨_, List.mem_map_of_mem invoiceMem, ?_⟩
  split
  · exact settles
  · exact settles

/-- The invoice is marked paid and its payment stored with its announcement. -/
theorem Announced.markPaid (announced : db.Announced) {locked : InvoiceRow}
    (lockedMem : locked ∈ db.invoices) {payment : PaymentRow}
    (ofInvoice : payment.invoiceId = locked.id)
    (total : payment.amount = locked.totalAmount)
    (currency : payment.currencyCode = locked.currencyCode)
    (status : InvoiceStatus) (nextId : Nat) :
    ({ db with
        nextId := nextId
        invoices := db.invoices.map fun row =>
          if row.id = locked.id then { row with status := status } else row
        payments := db.payments ++ [payment]
        outbox := db.outbox ++ [.paymentReceived (payment.announcement locked)] } :
      BillingDb).Announced where
  movements := announced.movements.silent rfl
  invoices := by
    apply (announced.invoices.silent rfl).change
    intro payload row _ told
    split
    · exact told
    · exact told
  payments := by
    have before : Journal paymentReceived? _ db.outbox db.payments :=
      announced.payments.imp fun payload paid _ settles =>
        settles.mark (·.id = locked.id) status
    have settles : db.Settles (payment.announcement locked) payment :=
      ⟨locked, lockedMem, ofInvoice.symm, rfl, total, currency⟩
    exact before.append (.cons (settles.mark (·.id = locked.id) status) .nil)
  numbered := by
    have numbers : (db.invoices.map fun row =>
        if row.id = locked.id then { row with status := status } else row).map
          (·.invoiceReference) = db.invoices.map (·.invoiceReference) := by
      rw [List.map_map]
      apply List.map_congr_left
      intro row _
      simp only [Function.comp_apply]
      split <;> rfl
    rw [numbers, List.length_map]
    exact announced.numbered
  next := by
    rw [List.length_map]
    exact announced.next
  consumptions := by
    rw [announced.consumptions, List.map_map]
    apply List.map_congr_left
    intro row _
    simp only [Function.comp_apply]
    split <;> rfl
  facts := by
    intro fact factMem
    rcases List.mem_append.mp factMem with before | new
    · exact announced.facts fact before
    · rw [List.mem_singleton.mp new]
      simp [Fact.eventType]

/-- A payment records what it says of its invoice, all of which it pays. -/
theorem markPaid_announces {invoice invoice' : Invoice} {input : MarkPaidInput}
    (marked : invoice.markPaid input = .ok invoice') :
    input.amount = invoice.totalAmount ∧ input.amount.currency = invoice.currency ∧
      invoice' =
        { invoice with
          status := .paid
          domainEvents := invoice.domainEvents ++ [.paymentReceived
            { orderReference := invoice.orderReference
              invoiceReference := invoice.invoiceReference
              paymentReference := input.paymentReference
              currency := input.amount.currency
              amount := input.amount.amount
              source := input.source }] } := by
  simp only [Invoice.markPaid, ite_error_eq_ok_iff, Except.ok.injEq] at marked
  rcases marked with ⟨_, currency, total, same⟩
  rw [not_not] at currency total
  subst same
  exact ⟨total, currency, by rw [currency]⟩

theorem Announced.registerPayment {db' : BillingDb} (announced : db.Announced)
    {request : PaymentRegisterRequest} {snapshot : InvoiceRow} {reply : BillingReply}
    (result : db.registerPayment request snapshot = .ok (db', reply)) :
    db'.Announced := by
  unfold BillingDb.registerPayment at result
  rcases bind_eq_ok_iff.mp result with ⟨credit, locked, result⟩
  rcases lockForOrder_eq_ok locked with ⟨line, found, rfl⟩
  split at result
  · cases result
  · rename_i lockedRow foundInvoice
    have lockedMem : lockedRow ∈ db.invoices := List.mem_of_find?_eq_some foundInvoice
    rcases bind_eq_ok_iff.mp result with ⟨invoice, rebuilt, result⟩
    cases reconstitute_eq_ok rebuilt
    split at result
    · cases result
      exact announced
    · rcases bind_eq_ok_iff.mp result with ⟨amount, isMoney, result⟩
      have amountEq : amount = request.amount :=
        Money.of_text_eq_ok (mapError_eq_ok_iff.mp isMoney)
      subst amountEq
      rcases bind_eq_ok_iff.mp result with ⟨invoice', marked, result⟩
      rcases markPaid_announces marked with ⟨total, currency, rfl⟩
      rcases bind_eq_ok_iff.mp result with ⟨released, accepted, result⟩
      have told := (BuyerCredit.told_snapshot db line snapshot.orderReference).releaseHold
        accepted
      rcases bind_eq_ok_iff.mp result with ⟨saved, savedInvoice, result⟩
      simp only [BillingDb.markPaid, ite_error_eq_ok_iff, Except.ok.injEq] at savedInvoice
      rcases savedInvoice with ⟨_, rfl⟩
      cases result
      have ofInvoice : (db.paymentRow request lockedRow.id).invoiceId = lockedRow.id := rfl
      have paid := announced.markPaid lockedMem ofInvoice (congrArg Money.amount total)
        currency .paid (db.nextId + 2)
      exact paid.saveCredit told (findCredit_eq_some found).1
        (BuyerCredit.releaseHold_unconsumed accepted rfl)

/-! ## The credit transactions -/

theorem Announced.refuse {db' : BillingDb} (announced : db.Announced) {line : CreditRow}
    (lineMem : line ∈ db.credits) {order : OrderNumber} {request : HoldRequest}
    {reason : CreditRejectionReason} {reply : BillingReply}
    (result : db.refuse (db.toBuyerCreditSnapshot line order) request reason =
      .ok (db', reply)) : db'.Announced := by
  rcases bind_eq_ok_iff.mp result with ⟨credit', refused, result⟩
  have told := (BuyerCredit.told_snapshot db line order).refuseHold refused
  simp only [BuyerCredit.refuseHold, ite_error_eq_ok_iff, Except.ok.injEq] at refused
  rcases refused with ⟨_, rfl⟩
  cases result
  exact announced.saveCredit told lineMem rfl

theorem Announced.hold {db' : BillingDb} (announced : db.Announced)
    {request : CreditHoldRequest} {drawn : Bool} {reply : BillingReply}
    (result : db.hold request drawn = .ok (db', reply)) : db'.Announced := by
  unfold BillingDb.hold at result
  rcases bind_eq_ok_iff.mp result with ⟨amount, _, result⟩
  rcases bind_eq_ok_iff.mp result with ⟨credit, locked, result⟩
  rcases lockForOrder_eq_ok locked with ⟨line, found, rfl⟩
  have lineMem : line ∈ db.credits := (findCredit_eq_some found).1
  cases evaluates : (db.toBuyerCreditSnapshot line request.orderReference).evaluateHold
      ⟨request.orderReference, amount⟩ with
  | alreadyHeld heldAmount =>
      simp only [evaluates] at result
      cases result
      exact announced
  | currencyMismatch expected =>
      simp only [evaluates] at result
      cases result
  | overLimit available =>
      simp only [evaluates] at result
      exact announced.refuse lineMem result
  | fits =>
      simp only [evaluates] at result
      split at result
      · exact announced.refuse lineMem result
      · rcases bind_eq_ok_iff.mp result with ⟨credit', approved, result⟩
        have told := (BuyerCredit.told_snapshot db line
          request.orderReference).approveHold approved
        simp only [BuyerCredit.approveHold, evaluates, Except.ok.injEq] at approved
        subst approved
        cases result
        have generated : (db.generated 1).Announced := { announced with }
        exact generated.saveCredit told lineMem rfl

theorem Announced.releaseCredit {db' : BillingDb} (announced : db.Announced)
    {request : CreditReleaseRequest} {reply : BillingReply}
    (result : db.releaseCredit request = .ok (db', reply)) : db'.Announced := by
  unfold BillingDb.releaseCredit at result
  rcases bind_eq_ok_iff.mp result with ⟨credit, locked, result⟩
  rcases lockForOrder_eq_ok locked with ⟨line, found, rfl⟩
  rcases bind_eq_ok_iff.mp result with ⟨released, accepted, result⟩
  have told := (BuyerCredit.told_snapshot db line request.orderReference).releaseHold
    accepted
  have unconsumed := BuyerCredit.releaseHold_unconsumed accepted rfl
  split at result
  · cases result
    exact announced
  · cases result
    have generated : (db.generated 1).Announced := { announced with }
    exact generated.saveCredit told (findCredit_eq_some found).1 unconsumed

end BillingDb

/-! ## Over every run -/

namespace BillingSystem

open BillingDb

theorem announced_initial (catalogue : CreditCatalogue) :
    (initial catalogue).db.Announced where
  movements := Journal.empty
  invoices := Journal.empty
  payments := Journal.empty
  numbered := rfl
  next := rfl
  facts := List.forall_mem_nil _
  consumptions := rfl

theorem announced_transaction {db db' : BillingDb} {drawn : Bool} {call : BillingCall}
    {reply : BillingReply} (announced : db.Announced)
    (result : transaction db drawn call = some (.ok (db', reply))) :
    db'.Announced := by
  cases call with
  | creditHold request => exact announced.hold (Option.some.inj result)
  | creditRelease request => exact announced.releaseCredit (Option.some.inj result)
  | invoiceIssue request => exact announced.issueInvoice (Option.some.inj result)
  | paymentLooked request => cases result
  | paymentRegister request snapshot =>
      exact announced.registerPayment (Option.some.inj result)

theorem announced_step {system system' : BillingSystem} {action : BillingAction}
    (announced : system.db.Announced) (stepped : step system action = some system') :
    system'.db.Announced := by
  cases step_change stepped with
  | committed index drawn call db reply found result =>
      exact announced_transaction announced result
  | received | alreadyInvoiced | alreadyRecorded | unknownInvoice | resolved
  | refused | aborted => exact announced

/-- However requests are interleaved, lost or repeated, what Billing announces is
what its tables say. -/
theorem tables_are_announced {catalogue : CreditCatalogue} {system : BillingSystem}
    (reached : Reachable step unguarded (initial catalogue) system) :
    system.db.Announced := by
  induction reached with
  | refl => exact announced_initial catalogue
  | tail _ _ stepped inductionHypothesis =>
      exact announced_step inductionHypothesis stepped

theorem paid_tables_are_announced :
    ∃ system,
      Reachable step unguarded (initial thousandLimit) system ∧
      system.db.outbox.map Fact.eventType =
        [.creditApproved, .creditApproved, .invoiceIssued, .creditReleased,
          .paymentReceived, .creditReleased] ∧
      system.db.Announced := by
  have runs : (execute step (fun state action => decide (unguarded state action))
      (initial thousandLimit) paidBesideReleased).map
        (fun system => system.db.outbox.map Fact.eventType) =
      some [.creditApproved, .creditApproved, .invoiceIssued, .creditReleased,
        .paymentReceived, .creditReleased] := by
    decide
  rcases Option.map_eq_some_iff.mp runs with ⟨system, ran, outbox⟩
  have reached : Reachable step unguarded (initial thousandLimit) system :=
    reachable_of_execute ran
  exact ⟨system, reached, outbox, tables_are_announced reached⟩

end BillingSystem

end OrderToCash.Billing
