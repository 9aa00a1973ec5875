import OrderToCash.Billing.Service

/-!
# What the Billing transactions do

One spec for each transaction: which ledger rows, which facts and which rows of
the other tables a commit adds, in terms of the database alone.
-/

namespace OrderToCash.Billing

open OrderToCash.Checked
open OrderToCash.Contracts
open OrderToCash.Kernel

/-- The amounts of the ledger rows of one type. -/
def typedSum (type : CreditEntryType) (rows : List CreditItemRow) : Int :=
  ((rows.filter (·.type = type)).map CreditItemRow.amount).sum

/-- What ledger rows leave tied up. -/
def exposureOfRows (rows : List CreditItemRow) : Int :=
  (rows.map BillingDb.exposureOfRow).sum

/-- The part of it that is not invoiced. -/
def activeHoldOfRows (rows : List CreditItemRow) : Int :=
  exposureOfRows rows - min (typedSum .consume rows) (exposureOfRows rows)

@[simp]
theorem exposureOfRows_append (first second : List CreditItemRow) :
    exposureOfRows (first ++ second) =
      exposureOfRows first + exposureOfRows second := by
  simp [exposureOfRows]

theorem typedSum_cons (type : CreditEntryType) (row : CreditItemRow)
    (rest : List CreditItemRow) :
    typedSum type (row :: rest) =
      (if row.type = type then row.amount else 0) + typedSum type rest := by
  by_cases same : row.type = type
  · simp [typedSum, same]
  · simp [typedSum, same]

theorem exposureOfRows_eq (rows : List CreditItemRow) :
    exposureOfRows rows = typedSum .hold rows - typedSum .release rows := by
  induction rows with
  | nil => rfl
  | cons row rest inductionHypothesis =>
      rw [typedSum_cons, typedSum_cons]
      have split : exposureOfRows (row :: rest) =
          BillingDb.exposureOfRow row + exposureOfRows rest := by
        simp [exposureOfRows]
      rw [split, inductionHypothesis, BillingDb.exposureOfRow]
      cases row.type with
      | hold => simp; omega
      | release => simp; omega
      | consume => simp

/-! ## Loaded entries -/

theorem sumOf_toEntry (type : CreditEntryType) (currency : CurrencyCode)
    (rows : List CreditItemRow) :
    sumOf type (rows.map (·.toEntry currency)) = typedSum type rows := by
  unfold sumOf typedSum
  rw [List.filter_map, List.map_map]
  rfl

/-- The entries loaded for an order are all the order's. -/
theorem filter_toEntry {order : OrderNumber} {rows : List CreditItemRow}
    (ofOrder : ∀ row ∈ rows, row.orderReference = order) (currency : CurrencyCode) :
    (rows.map (·.toEntry currency)).filter (·.orderReference = order) =
      rows.map (·.toEntry currency) := by
  rw [List.filter_eq_self]
  intro entry entryMem
  obtain ⟨row, rowMem, rfl⟩ := List.mem_map.mp entryMem
  exact decide_eq_true (ofOrder row rowMem)

theorem orderExposure_toEntry {order : OrderNumber} {rows : List CreditItemRow}
    (ofOrder : ∀ row ∈ rows, row.orderReference = order) (currency : CurrencyCode) :
    (orderExposure (rows.map (·.toEntry currency)) order).exposure =
        exposureOfRows rows ∧
      (orderExposure (rows.map (·.toEntry currency)) order).activeHold =
        activeHoldOfRows rows := by
  simp only [orderExposure, filter_toEntry ofOrder, sumOf_toEntry,
    activeHoldOfRows, exposureOfRows_eq, and_self]

namespace BillingDb

theorem orderReference_of_mem_itemsOf {db : BillingDb} {creditId : UniqueId}
    {order : OrderNumber} {row : CreditItemRow}
    (rowMem : row ∈ db.itemsOf creditId order) :
    row.creditId = creditId ∧ row.orderReference = order := by
  have selected := (List.mem_filter.mp rowMem).2
  exact of_decide_eq_true selected

theorem findCredit_eq_some {db : BillingDb} {retailerCode companyCode : String}
    {line : CreditRow}
    (found : db.findCredit retailerCode companyCode = some line) :
    line ∈ db.credits ∧ line.retailerCode = retailerCode ∧
      line.companyCode = companyCode := by
  unfold findCredit at found
  have named := List.find?_some found
  exact ⟨List.mem_of_find?_eq_some found, of_decide_eq_true named⟩

/-- A load finds the line and reads the order's entries on it. -/
theorem lockForOrder_eq_ok {db : BillingDb} {retailerCode companyCode : String}
    {order : OrderNumber} {credit : BuyerCredit}
    (locked : db.lockForOrder retailerCode companyCode order = .ok credit) :
    ∃ line, db.findCredit retailerCode companyCode = some line ∧
      credit = db.toBuyerCreditSnapshot line order := by
  unfold lockForOrder at locked
  split at locked
  · cases locked
  · rename_i line found
    simp only [BuyerCredit.reconstitute, ite_error_eq_ok_iff] at locked
    exact ⟨line, found, (Except.ok.inj locked.2.2.2).symm⟩

/-- A line within its limit can be loaded. -/
theorem lockForOrder_isOk {db : BillingDb} {retailerCode companyCode : String}
    {line : CreditRow}
    (found : db.findCredit retailerCode companyCode = some line)
    (limit : 0 ≤ line.creditLimit)
    (within : db.committedExposure line.id ≤ line.creditLimit)
    (order : OrderNumber) :
    db.lockForOrder retailerCode companyCode order =
      .ok (db.toBuyerCreditSnapshot line order) := by
  have sameCurrency :
      ¬ (db.toBuyerCreditSnapshot line order).loadedEntries.any
        (·.amount.currency ≠ line.currencyCode) = true := by
    rw [List.any_eq_true]
    rintro ⟨entry, entryMem, differs⟩
    obtain ⟨row, _, rfl⟩ := List.mem_map.mp entryMem
    exact of_decide_eq_true differs rfl
  unfold lockForOrder
  rw [found]
  unfold BuyerCredit.reconstitute
  exact (if_neg (Int.not_lt.mpr limit)).trans
    ((if_neg (Int.not_lt.mpr within)).trans (if_neg sameCurrency))

end BillingDb

namespace BuyerCredit

variable {db : BillingDb} {line : CreditRow} {order : OrderNumber}

/-- The entries of a freshly loaded line are the order's rows. -/
theorem entriesOf_snapshot (db : BillingDb) (line : CreditRow)
    (order : OrderNumber) :
    (db.toBuyerCreditSnapshot line order).entriesOf order =
      (db.itemsOf line.id order).map (·.toEntry line.currencyCode) := by
  unfold entriesOf entries BillingDb.toBuyerCreditSnapshot
  simp only [List.append_nil]
  exact filter_toEntry
    (fun row rowMem => (BillingDb.orderReference_of_mem_itemsOf rowMem).2) _

/-- What a freshly loaded line says the order ties up. -/
theorem outstanding_snapshot (db : BillingDb) (line : CreditRow)
    (order : OrderNumber) :
    (summariseLedger
        ((db.toBuyerCreditSnapshot line order).entriesOf order)).amountOf order
          OrderExposure.exposure =
      exposureOfRows (db.itemsOf line.id order) := by
  rw [amountOf_exposure, entriesOf_snapshot]
  exact (orderExposure_toEntry
    (fun row rowMem => (BillingDb.orderReference_of_mem_itemsOf rowMem).2) _).1

theorem activeHold_snapshot (db : BillingDb) (line : CreditRow)
    (order : OrderNumber) :
    (summariseLedger
        ((db.toBuyerCreditSnapshot line order).entriesOf order)).amountOf order
          OrderExposure.activeHold =
      activeHoldOfRows (db.itemsOf line.id order) := by
  rw [amountOf_activeHold, entriesOf_snapshot]
  exact (orderExposure_toEntry
    (fun row rowMem => (BillingDb.orderReference_of_mem_itemsOf rowMem).2) _).2

/-- A hold the order already has is among its rows on the line. -/
theorem find?_hold_snapshot (db : BillingDb) (line : CreditRow)
    (order : OrderNumber) :
    ((db.toBuyerCreditSnapshot line order).entriesOf order).find?
        (·.type = .hold) =
      ((db.itemsOf line.id order).find? (·.type = .hold)).map
        (·.toEntry line.currencyCode) := by
  rw [entriesOf_snapshot, List.find?_map]
  rfl

end BuyerCredit

/-! ## The effects -/

namespace BillingDb

/-- The database with ledger rows and facts appended. -/
def posted (db : BillingDb) (rows : List CreditItemRow) (facts : List Fact) :
    BillingDb :=
  { db with
    creditItems := db.creditItems ++ rows
    outbox := db.outbox ++ facts }

/-- A ledger row of an order on a line. -/
def ledgerRow (db : BillingDb) (index : Nat) (line : CreditRow)
    (order : OrderNumber) (type : CreditEntryType) (amount : Int) :
    CreditItemRow :=
  { id := db.newId index
    creditId := line.id
    orderReference := order
    amount := amount
    type := type }

/-- The order has a hold on the line. -/
def HasHold (db : BillingDb) (line : CreditRow) (order : OrderNumber) : Prop :=
  ∃ row ∈ db.itemsOf line.id order, row.type = .hold

/-- What a hold request does. -/
inductive HoldEffect (db : BillingDb) (request : CreditHoldRequest)
    (line : CreditRow) : BillingDb → Prop
  | repeated (held : db.HasHold line request.orderReference) :
      HoldEffect db request line db
  | refused (payload : CreditRejectedPayload)
      (first : ¬ db.HasHold line request.orderReference)
      (ofOrder : payload.orderReference = request.orderReference) :
      HoldEffect db request line (db.posted [] [.creditRejected payload])
  | approved (payload : CreditApprovedPayload)
      (first : ¬ db.HasHold line request.orderReference)
      (fits : request.amount.amount ≤
        line.creditLimit - db.committedExposure line.id)
      (ofOrder : payload.orderReference = request.orderReference)
      (heldAmount : payload.heldAmount = request.amount.amount)
      (available : payload.availableCreditAfter = line.creditLimit -
        (db.committedExposure line.id + request.amount.amount)) :
      HoldEffect db request line
        ((db.generated 1).posted
          [db.ledgerRow 0 line request.orderReference .hold
            request.amount.amount]
          [.creditApproved payload])

/-- What a release of the order's exposure on a line does. -/
inductive ReleaseEffect (db : BillingDb) (order : OrderNumber)
    (line : CreditRow) (reason : CreditReleaseReason) :
    List CreditItemRow → List Fact → Prop
  | nothing (none : exposureOfRows (db.itemsOf line.id order) = 0) :
      ReleaseEffect db order line reason [] []
  | released (payload : CreditReleasedPayload)
      (some : 0 < exposureOfRows (db.itemsOf line.id order))
      (ofOrder : payload.orderReference = order)
      (sameReason : payload.reason = reason)
      (releasedAmount : payload.releasedAmount =
        exposureOfRows (db.itemsOf line.id order))
      (available : payload.availableCreditAfter = line.creditLimit -
        (db.committedExposure line.id -
          exposureOfRows (db.itemsOf line.id order))) :
      ReleaseEffect db order line reason
        [db.ledgerRow 0 line order .release
          (exposureOfRows (db.itemsOf line.id order))]
        [.creditReleased payload]

/-- The database with an invoice, the consumption of its hold and its fact. -/
def afterIssue (db : BillingDb) (invoice : InvoiceRow) (line : CreditRow)
    (payload : InvoiceIssuedPayload) : BillingDb :=
  { (db.generated 2).posted
      [db.ledgerRow 1 line invoice.orderReference .consume
        (activeHoldOfRows (db.itemsOf line.id invoice.orderReference))]
      [.invoiceIssued payload] with
    invoices := db.invoices ++ [invoice]
    nextInvoiceNumber := db.nextInvoiceNumber + 1 }

/-- What an invoicing request does. -/
inductive InvoiceEffect (db : BillingDb) (request : InvoiceIssueRequest)
    (line : CreditRow) : BillingDb → Prop
  | repeated (existing : InvoiceRow)
      (found : db.findByOrderReference request.orderReference = some existing) :
      InvoiceEffect db request line db
  | issued (invoice : InvoiceRow) (payload : InvoiceIssuedPayload)
      (first : db.findByOrderReference request.orderReference = none)
      (held : 0 < activeHoldOfRows (db.itemsOf line.id request.orderReference))
      (identifier : invoice.id = db.newId 0)
      (reference : invoice.invoiceReference = db.nextInvoiceNumber)
      (ofOrder : invoice.orderReference = request.orderReference)
      (ofLine : invoice.retailerCode = request.retailerCode ∧
        invoice.companyCode = request.companyCode)
      (isIssued : invoice.status = .issued)
      (payloadOfOrder : payload.orderReference = request.orderReference) :
      InvoiceEffect db request line (db.afterIssue invoice line payload)

/-- The database with an invoice paid. -/
def afterPayment (db : BillingDb) (invoiceId : UniqueId) (payment : PaymentRow)
    (rows : List CreditItemRow) (facts : List Fact) : BillingDb :=
  { (db.generated 2).posted rows facts with
    invoices := db.invoices.map fun row =>
      if row.id = invoiceId then { row with status := .paid } else row
    payments := db.payments ++ [payment] }

/-- What a payment of a resolved invoice does. -/
inductive PaymentEffect (db : BillingDb) (request : PaymentRegisterRequest)
    (snapshot : InvoiceRow) (line : CreditRow) : BillingDb → Prop
  | repeated (locked : InvoiceRow) (found : db.findById snapshot.id = some locked)
      (paid : locked.status = .paid) :
      PaymentEffect db request snapshot line db
  | paid (locked : InvoiceRow) (payment : PaymentRow)
      (payload : PaymentReceivedPayload) (rows : List CreditItemRow)
      (facts : List Fact) (found : db.findById snapshot.id = some locked)
      (unpaid : locked.status = .issued)
      (first : db.findPaymentByReference request.paymentReference = none)
      (reference : payment.paymentReference = request.paymentReference)
      (ofInvoice : payment.invoiceId = locked.id)
      (ofOrder : payload.orderReference = locked.orderReference)
      (total : request.amount.amount = locked.totalAmount)
      (release : db.ReleaseEffect snapshot.orderReference line .invoicePaid rows
        facts) :
      PaymentEffect db request snapshot line
        (db.afterPayment locked.id payment rows (.paymentReceived payload :: facts))

/-! ## The specs -/

theorem hasHold_iff {db : BillingDb} {line : CreditRow} {order : OrderNumber} :
    db.HasHold line order ↔
      ((db.itemsOf line.id order).find? (·.type = .hold)).isSome = true := by
  simp [HasHold]

theorem refuse_eq_ok {db db' : BillingDb} {line : CreditRow}
    {order : OrderNumber} {request : HoldRequest} {reason : CreditRejectionReason}
    {reply : BillingReply}
    (refused : db.refuse (db.toBuyerCreditSnapshot line order) request reason =
      .ok (db', reply)) :
    ∃ payload : CreditRejectedPayload,
      payload.orderReference = request.orderReference ∧
        db' = db.posted [] [.creditRejected payload] := by
  unfold refuse at refused
  obtain ⟨credit', accepted, result⟩ := bind_eq_ok_iff.mp refused
  simp only [BuyerCredit.refuseHold, ite_error_eq_ok_iff] at accepted
  cases accepted.2
  cases result
  exact ⟨_, rfl, rfl⟩

/-- The decision of a hold on a freshly loaded line. -/
theorem evaluateHold_snapshot (db : BillingDb) (line : CreditRow)
    (request : HoldRequest) :
    (db.toBuyerCreditSnapshot line request.orderReference).evaluateHold request =
      match (db.itemsOf line.id request.orderReference).find?
          (·.type = .hold) with
      | some row => .alreadyHeld ⟨row.amount, line.currencyCode⟩
      | none =>
          if request.amount.currency ≠ line.currencyCode then
            .currencyMismatch line.currencyCode
          else if request.amount.amount >
              line.creditLimit - db.committedExposure line.id then
            .overLimit (line.creditLimit - db.committedExposure line.id)
          else
            .fits := by
  unfold BuyerCredit.evaluateHold
  rw [BuyerCredit.find?_hold_snapshot]
  cases (db.itemsOf line.id request.orderReference).find? (·.type = .hold) with
  | none => rfl
  | some row => rfl

/-- A line answers a hold as repeated exactly when the order has a hold on it. -/
theorem hasHold_iff_alreadyHeld {db : BillingDb} {line : CreditRow}
    {request : HoldRequest} {evaluation : HoldEvaluation}
    (evaluates : (db.toBuyerCreditSnapshot line
      request.orderReference).evaluateHold request = evaluation) :
    db.HasHold line request.orderReference ↔
      ∃ heldAmount, evaluation = .alreadyHeld heldAmount := by
  rw [evaluateHold_snapshot] at evaluates
  rw [hasHold_iff]
  cases hold : (db.itemsOf line.id request.orderReference).find?
      (·.type = .hold) with
  | some row =>
      rw [hold] at evaluates
      exact ⟨fun _ => ⟨_, evaluates.symm⟩, fun _ => rfl⟩
  | none =>
      simp only [hold] at evaluates
      constructor
      · intro absurdity
        cases absurdity
      · rintro ⟨heldAmount, rfl⟩
        split at evaluates
        · cases evaluates
        · split at evaluates
          · cases evaluates
          · cases evaluates

/-- An amount that fits is within the available credit. -/
theorem le_available_of_fits {db : BillingDb} {line : CreditRow}
    {request : HoldRequest}
    (evaluates : (db.toBuyerCreditSnapshot line
      request.orderReference).evaluateHold request = .fits) :
    request.amount.amount ≤ line.creditLimit - db.committedExposure line.id := by
  rw [evaluateHold_snapshot] at evaluates
  split at evaluates
  · cases evaluates
  · split at evaluates
    · cases evaluates
    · split at evaluates
      · cases evaluates
      · rename_i notOver
        exact Int.not_lt.mp notOver

/-- A hold that was answered repeated an earlier one, was refused or was
approved. -/
theorem hold_effect {db db' : BillingDb} {request : CreditHoldRequest}
    {drawn : Bool} {reply : BillingReply}
    (result : db.hold request drawn = .ok (db', reply)) :
    ∃ line,
      db.findCredit request.retailerCode request.companyCode = some line ∧
        db.HoldEffect request line db' := by
  unfold hold at result
  obtain ⟨amount, isMoney, result⟩ := bind_eq_ok_iff.mp result
  have amountEq : amount = request.amount :=
    Money.of_text_eq_ok (mapError_eq_ok_iff.mp isMoney)
  subst amountEq
  obtain ⟨credit, locked, result⟩ := bind_eq_ok_iff.mp result
  obtain ⟨line, found, rfl⟩ := lockForOrder_eq_ok locked
  refine ⟨line, found, ?_⟩
  cases evaluates : (db.toBuyerCreditSnapshot line
      request.orderReference).evaluateHold
        ⟨request.orderReference, request.amount⟩ with
  | alreadyHeld heldAmount =>
      simp only [evaluates] at result
      cases result
      exact .repeated ((hasHold_iff_alreadyHeld evaluates).mpr ⟨_, rfl⟩)
  | currencyMismatch expected =>
      simp only [evaluates] at result
      cases result
  | overLimit available =>
      simp only [evaluates] at result
      obtain ⟨payload, ofOrder, rfl⟩ := refuse_eq_ok result
      apply HoldEffect.refused payload _ ofOrder
      rw [hasHold_iff_alreadyHeld evaluates]
      simp
  | fits =>
      have first : ¬ db.HasHold line request.orderReference := by
        rw [hasHold_iff_alreadyHeld evaluates]
        simp
      simp only [evaluates] at result
      split at result
      · obtain ⟨payload, ofOrder, rfl⟩ := refuse_eq_ok result
        exact .refused payload first ofOrder
      · obtain ⟨credit', approved, saved⟩ := bind_eq_ok_iff.mp result
        simp only [BuyerCredit.approveHold, evaluates] at approved
        cases approved
        cases saved
        exact .approved _ first (le_available_of_fits evaluates) rfl rfl rfl

/-- What releasing an order's exposure on a freshly loaded line appends. -/
theorem releaseHold_effect {db : BillingDb} {line : CreditRow}
    {order : OrderNumber} {reason : CreditReleaseReason}
    {released : Option (BuyerCredit × CreditLedgerEntry)}
    (result : (db.toBuyerCreditSnapshot line order).releaseHold order reason
      (db.newId 0) = .ok released) :
    ∃ rows facts, db.ReleaseEffect order line reason rows facts ∧
      (released = none ↔ rows = []) ∧
      ∀ other : BillingDb,
        other.saveCredit ((released.map Prod.fst).getD
          (db.toBuyerCreditSnapshot line order)) = other.posted rows facts := by
  simp only [BuyerCredit.releaseHold, BuyerCredit.outstanding_snapshot,
    ite_error_eq_ok_iff] at result
  obtain ⟨notNegative, result⟩ := result
  split at result
  · rename_i none
    cases result
    exact ⟨[], [], .nothing none, by simp, fun _ => rfl⟩
  · rename_i some
    cases result
    have positive : 0 < exposureOfRows (db.itemsOf line.id order) := by omega
    refine ⟨_, _, .released _ positive rfl rfl rfl ?_, by simp, fun _ => rfl⟩
    simp only [BuyerCredit.availableCredit, BuyerCredit.append,
      toBuyerCreditSnapshot]
    omega

/-- A release that was answered appends the release of the order's exposure on
the line, if there is any. -/
theorem releaseCredit_effect {db db' : BillingDb} {request : CreditReleaseRequest}
    {reply : BillingReply} (result : db.releaseCredit request = .ok (db', reply)) :
    ∃ line rows facts count,
      db.findCredit request.retailerCode request.companyCode = some line ∧
        db.ReleaseEffect request.orderReference line .orderCancelled rows facts ∧
          db' = (db.generated count).posted rows facts := by
  unfold releaseCredit at result
  obtain ⟨credit, locked, result⟩ := bind_eq_ok_iff.mp result
  obtain ⟨line, found, rfl⟩ := lockForOrder_eq_ok locked
  obtain ⟨released, accepted, result⟩ := bind_eq_ok_iff.mp result
  obtain ⟨rows, facts, effect, noneIff, saved⟩ := releaseHold_effect accepted
  cases released with
  | none =>
      cases result
      have noRows := noneIff.mp rfl
      subst noRows
      cases effect with
      | nothing none =>
          exact ⟨line, [], [], 0, found, .nothing none, by simp [generated, posted]⟩
  | some released =>
      obtain ⟨credit', entry⟩ := released
      cases result
      exact ⟨line, rows, facts, 1, found, effect, saved (db.generated 1)⟩

/-- A release on a line within its limit succeeds unless the order's exposure on
it is negative. -/
theorem releaseCredit_isOk {db : BillingDb} {request : CreditReleaseRequest}
    {line : CreditRow}
    (found : db.findCredit request.retailerCode request.companyCode = some line)
    (limit : 0 ≤ line.creditLimit)
    (within : db.committedExposure line.id ≤ line.creditLimit)
    (exposed : 0 ≤ exposureOfRows (db.itemsOf line.id request.orderReference)) :
    ∃ value, db.releaseCredit request = .ok value := by
  have notNegative :
      ¬ exposureOfRows (db.itemsOf line.id request.orderReference) < 0 :=
    Int.not_lt.mpr exposed
  unfold releaseCredit
  rw [lockForOrder_isOk found limit within]
  simp only [bind, Except.bind, BuyerCredit.releaseHold,
    BuyerCredit.outstanding_snapshot, if_neg notNegative]
  by_cases none : exposureOfRows (db.itemsOf line.id request.orderReference) = 0
  · rw [if_pos none]
    exact ⟨_, rfl⟩
  · rw [if_neg none]
    exact ⟨_, rfl⟩

/-! ### Invoices -/

theorem issue_eq_ok {input : IssueInvoiceInput} {invoice : Invoice}
    (issued : Invoice.issue input = .ok invoice) :
    ∃ payload : InvoiceIssuedPayload,
      payload.orderReference = input.orderReference ∧
        invoice.domainEvents = [.invoiceIssued payload] ∧
          invoice.id = input.id ∧ invoice.status = .issued ∧
            invoice.invoiceReference = input.invoiceReference ∧
              invoice.orderReference = input.orderReference ∧
                invoice.retailerCode = input.retailerCode ∧
                  invoice.companyCode = input.companyCode := by
  unfold Invoice.issue at issued
  split at issued
  · cases issued
  · obtain ⟨checked, _, issued⟩ := bind_eq_ok_iff.mp issued
    obtain ⟨amount, _, issued⟩ := bind_eq_ok_iff.mp issued
    obtain ⟨totalAmount, _, issued⟩ := bind_eq_ok_iff.mp issued
    split at issued
    · cases issued
    · cases issued
      exact ⟨_, rfl, rfl, rfl, rfl, rfl, rfl, rfl, rfl⟩

/-- An invoicing that was answered repeated an earlier one or issued the order's
invoice. -/
theorem issueInvoice_effect {db db' : BillingDb} {request : InvoiceIssueRequest}
    {reply : BillingReply} (result : db.issueInvoice request = .ok (db', reply)) :
    ∃ line,
      db.findCredit request.retailerCode request.companyCode = some line ∧
        db.InvoiceEffect request line db' := by
  unfold issueInvoice at result
  obtain ⟨credit, locked, result⟩ := bind_eq_ok_iff.mp result
  obtain ⟨line, found, rfl⟩ := lockForOrder_eq_ok locked
  refine ⟨line, found, ?_⟩
  split at result
  · rename_i existing repeated
    cases result
    exact .repeated existing repeated
  · rename_i first
    simp only [ite_error_eq_ok_iff] at result
    obtain ⟨_, _, result⟩ := result
    obtain ⟨lines, _, result⟩ := bind_eq_ok_iff.mp result
    obtain ⟨discount, _, result⟩ := bind_eq_ok_iff.mp result
    obtain ⟨invoice, issued, result⟩ := bind_eq_ok_iff.mp result
    obtain ⟨credit', consumed, result⟩ := bind_eq_ok_iff.mp result
    obtain ⟨saved, savedInvoice, result⟩ := bind_eq_ok_iff.mp result
    obtain ⟨payload, payloadOf, events, identifier, status, reference, ofOrder,
      retailer, company⟩ := issue_eq_ok issued
    simp only [BuyerCredit.consumeHold, BuyerCredit.activeHold_snapshot,
      ite_error_eq_ok_iff, Except.ok.injEq] at consumed
    obtain ⟨held, rfl⟩ := consumed
    simp only [saveInvoice, ite_error_eq_ok_iff, Except.ok.injEq] at savedInvoice
    obtain ⟨_, rfl⟩ := savedInvoice
    have after := (Prod.mk.inj (Except.ok.inj result)).1
    have isAfter : db' = db.afterIssue (toInvoiceRow invoice) line payload := by
      rw [← after, afterIssue, toInvoiceRow, ofOrder, events]
      simp [saveCredit, posted, generated, BuyerCredit.append,
        toBuyerCreditSnapshot, toCreditItemRow, ledgerRow, newId]
    rw [isAfter]
    exact .issued (toInvoiceRow invoice) payload first (Int.not_le.mp held)
      identifier reference ofOrder ⟨retailer, company⟩ status payloadOf

/-! ### Payments -/

theorem reconstitute_eq_ok {invoice invoice' : Invoice}
    (rebuilt : invoice.reconstitute = .ok invoice') :
    invoice' = { invoice with domainEvents := [] } := by
  unfold Invoice.reconstitute at rebuilt
  simp only [ite_error_eq_ok_iff] at rebuilt
  obtain ⟨_, rebuilt⟩ := rebuilt
  obtain ⟨amount, _, rebuilt⟩ := bind_eq_ok_iff.mp rebuilt
  simp only [ite_error_eq_ok_iff] at rebuilt
  obtain ⟨_, rebuilt⟩ := rebuilt
  obtain ⟨total, _, rebuilt⟩ := bind_eq_ok_iff.mp rebuilt
  simp only [ite_error_eq_ok_iff] at rebuilt
  exact (Except.ok.inj rebuilt.2).symm

theorem markPaid_eq_ok {invoice invoice' : Invoice} {input : MarkPaidInput}
    (marked : invoice.markPaid input = .ok invoice') :
    ∃ payload : PaymentReceivedPayload,
      payload.orderReference = invoice.orderReference ∧
        invoice.status = .issued ∧ input.amount = invoice.totalAmount ∧
          invoice' =
            { invoice with
              status := .paid
              domainEvents :=
                invoice.domainEvents ++ [.paymentReceived payload] } := by
  simp only [Invoice.markPaid, ite_error_eq_ok_iff, Except.ok.injEq] at marked
  obtain ⟨notPaid, _, total, rfl⟩ := marked
  have isIssued : invoice.status = .issued := by
    cases status : invoice.status with
    | issued => rfl
    | paid => exact absurd status notPaid
  exact ⟨_, rfl, isIssued, not_not.mp total, rfl⟩

/-- A payment that was answered repeated an earlier one or paid the invoice. -/
theorem registerPayment_effect {db db' : BillingDb}
    {request : PaymentRegisterRequest} {snapshot : InvoiceRow}
    {reply : BillingReply}
    (result : db.registerPayment request snapshot = .ok (db', reply)) :
    ∃ line,
      db.findCredit snapshot.retailerCode snapshot.companyCode = some line ∧
        db.PaymentEffect request snapshot line db' := by
  unfold registerPayment at result
  obtain ⟨credit, locked, result⟩ := bind_eq_ok_iff.mp result
  obtain ⟨line, foundLine, rfl⟩ := lockForOrder_eq_ok locked
  refine ⟨line, foundLine, ?_⟩
  split at result
  · cases result
  · rename_i lockedRow found
    obtain ⟨invoice, rebuilt, result⟩ := bind_eq_ok_iff.mp result
    cases reconstitute_eq_ok rebuilt
    split at result
    · rename_i paidBy paid
      cases result
      refine .repeated lockedRow found ?_
      unfold paidByRequest at paid
      split at paid
      · rename_i isPaid
        exact isPaid
      · cases paid
    · obtain ⟨amount, isMoney, result⟩ := bind_eq_ok_iff.mp result
      have amountEq : amount = request.amount :=
        Money.of_text_eq_ok (mapError_eq_ok_iff.mp isMoney)
      subst amountEq
      obtain ⟨invoice', marked, result⟩ := bind_eq_ok_iff.mp result
      obtain ⟨payload, payloadOf, unpaid, total, rfl⟩ := markPaid_eq_ok marked
      obtain ⟨released, accepted, result⟩ := bind_eq_ok_iff.mp result
      obtain ⟨rows, facts, effect, _, saved⟩ := releaseHold_effect accepted
      obtain ⟨marked, savedInvoice, result⟩ := bind_eq_ok_iff.mp result
      simp only [markPaid, ite_error_eq_ok_iff, Except.ok.injEq] at savedInvoice
      obtain ⟨fresh, rfl⟩ := savedInvoice
      have after := (Prod.mk.inj (Except.ok.inj result)).1
      rw [saved] at after
      have isAfter : db' = db.afterPayment lockedRow.id
          (db.paymentRow request lockedRow.id) rows
          (.paymentReceived payload :: facts) := by
        rw [← after]
        simp [afterPayment, posted, generated, paymentRow,
          InvoiceRow.toInvoiceSnapshot, newId]
        exact fun row _ => rfl
      rw [isAfter]
      refine .paid lockedRow _ payload rows facts found unpaid ?_ rfl rfl payloadOf
        ?_ effect
      · exact Option.not_isSome_iff_eq_none.mp fresh
      · exact congrArg Money.amount total

end BillingDb

end OrderToCash.Billing
