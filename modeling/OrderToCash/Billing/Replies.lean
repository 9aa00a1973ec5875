import Mathlib.Algebra.Order.BigOperators.Group.List
import OrderToCash.Billing.Bookings

/-!
# What the replies promise

A reply that says its request took effect stays true of the tables whatever
commits later, and it is what a repeat of the request is answered from.
-/

namespace OrderToCash.Billing

open OrderToCash.Checked
open OrderToCash.Contracts
open OrderToCash.Kernel
open OrderToCash.Transition

/-- The reply says that its request took effect. -/
def BillingReply.IsEffective : BillingReply → Bool
  | .approved .. => true
  | .released _ _ _ releasedAmount _ => releasedAmount.isSome
  | .invoice _ _ _ _ _ _ created => created
  | .payment outcome .. => outcome = .accepted
  | .alreadyHeld .. => false
  | .rejected .. => false

/-- The second reply answers the request of the first as a duplicate. -/
inductive BillingReply.Repeats : BillingReply → BillingReply → Prop
  | held (order : OrderNumber) (creditCode : String) (currency : CurrencyCode)
      (heldAmount available availableNow : Int) :
      Repeats (.approved order creditCode currency heldAmount available)
        (.alreadyHeld order creditCode currency heldAmount availableNow)
  | released (order : OrderNumber) (creditCode : String) (currency : CurrencyCode)
      (releasedAmount available availableNow : Int) :
      Repeats (.released order creditCode currency (some releasedAmount) available)
        (.released order creditCode currency none availableNow)
  | invoiced (order : OrderNumber) (invoiceId : UniqueId) (reference : Nat)
      (currency : CurrencyCode) (totalAmount : Int) (status statusNow : InvoiceStatus) :
      Repeats
        (.invoice order invoiceId reference currency totalAmount status true)
        (.invoice order invoiceId reference currency totalAmount statusNow false)
  | paid (paymentReference : PaymentReference) (reference : Nat) (order : OrderNumber)
      (status statusNow : InvoiceStatus) :
      Repeats (.payment .accepted paymentReference reference order status)
        (.payment .duplicate paymentReference reference order statusNow)

/-- An invoice row as it was, or paid since. -/
def InvoiceRow.IsLater (later row : InvoiceRow) : Prop :=
  later = row ∨ later = { row with status := .paid }

theorem InvoiceRow.IsLater.trans {last later row : InvoiceRow}
    (second : last.IsLater later) (first : later.IsLater row) :
    last.IsLater row := by
  rcases first with rfl | rfl
  · exact second
  · rcases second with rfl | rfl
    · exact Or.inr rfl
    · exact Or.inr rfl

/-- What a payment does to an invoice leaves all but its status. -/
theorem InvoiceRow.IsLater.fields {later row : InvoiceRow}
    (isLater : later.IsLater row) :
    later.id = row.id ∧ later.orderReference = row.orderReference ∧
      later.invoiceReference = row.invoiceReference ∧
        later.retailerCode = row.retailerCode ∧
          later.companyCode = row.companyCode ∧
            later.currencyCode = row.currencyCode ∧
              later.totalAmount = row.totalAmount ∧
                (row.status = .paid → later.status = .paid) := by
  rcases isLater with rfl | rfl
  · exact ⟨rfl, rfl, rfl, rfl, rfl, rfl, rfl, fun paid => paid⟩
  · exact ⟨rfl, rfl, rfl, rfl, rfl, rfl, rfl, fun _ => rfl⟩

namespace BillingDb

/-- What a reply says of its request, as the tables have it. -/
inductive Remembered (db : BillingDb) : BillingRequest → BillingReply → Prop
  | held (request : CreditHoldRequest) (line : CreditRow) (row : CreditItemRow)
      (available : Int)
      (isMoney : Money.of request.amount.amount request.amount.currency.text =
        .ok request.amount)
      (found : db.findCredit request.retailerCode request.companyCode = some line)
      (first : (db.itemsOf line.id request.orderReference).find?
        (·.type = .hold) = some row) :
      Remembered db (.creditHold request)
        (.approved request.orderReference line.code line.currencyCode row.amount
          available)
  | released (request : CreditReleaseRequest) (line : CreditRow)
      (amount available : Int)
      (found : db.findCredit request.retailerCode request.companyCode = some line)
      (held : db.HasHold line request.orderReference)
      (nothing : exposureOfRows (db.itemsOf line.id request.orderReference) = 0) :
      Remembered db (.creditRelease request)
        (.released request.orderReference line.code line.currencyCode (some amount)
          available)
  | invoiced (request : InvoiceIssueRequest) (line : CreditRow) (row : InvoiceRow)
      (status : InvoiceStatus)
      (found : db.findCredit request.retailerCode request.companyCode = some line)
      (stored : db.findByOrderReference request.orderReference = some row) :
      Remembered db (.invoiceIssue request)
        (.invoice row.orderReference row.id row.invoiceReference row.currencyCode
          row.totalAmount status true)
  | paid (request : PaymentRegisterRequest) (row : InvoiceRow)
      (payment : PaymentRow) (status : InvoiceStatus)
      (resolved : db.resolveInvoice request = some row) (isPaid : row.status = .paid)
      (recorded : db.findPaymentByReference request.paymentReference = some payment)
      (reference : payment.paymentReference = request.paymentReference)
      (ofInvoice : payment.invoiceId = row.id)
      (names : identityMatchesInvoice request row = true) :
      Remembered db (.paymentRegister request)
        (.payment .accepted request.paymentReference row.invoiceReference
          row.orderReference status)

/-! ## What later commits leave true -/

/-- The rows of the tables a transaction finds are found after it. -/
structure Follows (db db' : BillingDb) : Prop where
  sameLines : db'.credits = db.credits
  ledger : ∃ line order credit, db.Posted db' line order credit
  payments : ∃ new, db'.payments = db.payments ++ new
  invoices : ∀ selected : InvoiceRow → Bool,
    (∀ row, selected { row with status := .paid } = selected row) →
      ∀ row, db.invoices.find? selected = some row →
        ∃ later, db'.invoices.find? selected = some later ∧ later.IsLater row

theorem find?_invoices_paid {invoices : List InvoiceRow} (invoiceId : UniqueId)
    {selected : InvoiceRow → Bool}
    (blind : ∀ row, selected { row with status := .paid } = selected row)
    {row : InvoiceRow} (found : invoices.find? selected = some row) :
    ∃ later, (invoices.map fun row =>
        if row.id = invoiceId then { row with status := .paid } else row).find?
          selected = some later ∧ later.IsLater row := by
  have unmoved : (selected ∘ fun row : InvoiceRow =>
      if row.id = invoiceId then { row with status := .paid } else row) =
        selected := by
    funext row
    simp only [Function.comp_apply]
    split
    · exact blind row
    · rfl
  rw [List.find?_map, unmoved, found]
  refine ⟨_, rfl, ?_⟩
  by_cases same : row.id = invoiceId
  · exact Or.inr (if_pos same)
  · exact Or.inl (if_neg same)

end BillingDb

namespace BillingSystem

open BillingDb

theorem follows_transaction {db db' : BillingDb} {drawn : Bool} {call : BillingCall}
    {reply : BillingReply}
    (result : transaction db drawn call = some (.ok (db', reply))) :
    db.Follows db' := by
  rcases posted_transaction result with ⟨line, order, credit, posted⟩
  have unchanged : db'.payments = db.payments → db'.invoices = db.invoices →
      db.Follows db' := by
    intro samePayments sameInvoices
    exact
      { sameLines := posted.sameLines
        ledger := ⟨line, order, credit, posted⟩
        payments := ⟨[], by rw [samePayments, List.append_nil]⟩
        invoices := by
          intro selected _ row found
          exact ⟨row, sameInvoices ▸ found, Or.inl rfl⟩ }
  cases call with
  | creditHold request =>
      rcases hold_effect (Option.some.inj result) with ⟨_, _, effect⟩
      cases effect with
      | repeated | refused | approved => exact unchanged rfl rfl
  | creditRelease request =>
      rcases releaseCredit_effect (Option.some.inj result) with
        ⟨_, rows, facts, count, _, _, rfl⟩
      exact unchanged rfl rfl
  | invoiceIssue request =>
      rcases issueInvoice_effect (Option.some.inj result) with ⟨_, _, effect⟩
      cases effect with
      | repeated => exact unchanged rfl rfl
      | issued invoice =>
          exact
            { sameLines := posted.sameLines
              ledger := ⟨line, order, credit, posted⟩
              payments := ⟨[], (List.append_nil _).symm⟩
              invoices := by
                intro selected _ row found
                refine ⟨row, ?_, Or.inl rfl⟩
                exact List.find?_append.trans (by rw [found]; rfl) }
  | paymentLooked request => cases result
  | paymentRegister request snapshot =>
      rcases registerPayment_effect (Option.some.inj result) with ⟨_, _, effect⟩
      cases effect with
      | repeated => exact unchanged rfl rfl
      | paid locked payment =>
          exact
            { sameLines := posted.sameLines
              ledger := ⟨line, order, credit, posted⟩
              payments := ⟨[payment], rfl⟩
              invoices := fun selected blind row found =>
                find?_invoices_paid locked.id blind found }

end BillingSystem

namespace BillingDb

variable {db db' : BillingDb}

/-- A payment request keeps naming the invoice it named. -/
theorem Follows.resolveInvoice (follows : db.Follows db')
    {request : PaymentRegisterRequest} {row : InvoiceRow}
    (resolved : db.resolveInvoice request = some row) :
    ∃ later, db'.resolveInvoice request = some later ∧ later.IsLater row := by
  unfold BillingDb.resolveInvoice at resolved ⊢
  split at resolved
  · exact follows.invoices _ (fun _ => rfl) row resolved
  · exact follows.invoices _ (fun _ => rfl) row resolved
  · cases resolved

theorem Follows.findCredit (follows : db.Follows db')
    {retailerCode companyCode : String} {line : CreditRow}
    (found : db.findCredit retailerCode companyCode = some line) :
    db'.findCredit retailerCode companyCode = some line := by
  rw [BillingDb.findCredit, follows.sameLines]
  exact found

theorem Follows.findPaymentByReference (follows : db.Follows db')
    {paymentReference : PaymentReference} {payment : PaymentRow}
    (recorded : db.findPaymentByReference paymentReference = some payment) :
    db'.findPaymentByReference paymentReference = some payment := by
  rcases follows.payments with ⟨new, payments⟩
  unfold BillingDb.findPaymentByReference at recorded ⊢
  rw [payments, List.find?_append, recorded]
  rfl

/-- What a reply said stays true. -/
theorem Remembered.follows {request : BillingRequest} {reply : BillingReply}
    (remembered : db.Remembered request reply) (follows : db.Follows db') :
    db'.Remembered request reply := by
  rcases follows.ledger with ⟨posting, order, credit, posted⟩
  cases remembered with
  | held request line row available isMoney found first =>
      apply Remembered.held request line row available isMoney
        (follows.findCredit found)
      rw [posted.itemsOf_eq, List.find?_append, first]
      rfl
  | released request line amount available found held nothing =>
      have items := posted.itemsOf_eq line.id request.orderReference
      rcases held with ⟨holdRow, holdMem, isHold⟩
      apply Remembered.released request line amount available
        (follows.findCredit found)
      · refine ⟨holdRow, ?_, isHold⟩
        rw [items]
        exact List.mem_append_left _ holdMem
      · have effect := (ledgerEffect_of_operated posted.operated).2.1
        rw [items, exposureOfRows_append, nothing]
        generalize credit.domainEvents = facts at effect
        generalize credit.appended.map (toCreditItemRow posting.id) = rows
          at effect ⊢
        cases effect with
        | nothing => rfl
        | held row payload first isHoldRow ofLine ofOrder =>
            rw [filter_row ofLine ofOrder]
            split
            · rename_i same
              refine absurd ⟨holdRow, ?_, isHold⟩ first
              rw [same.1, same.2]
              exact holdMem
            · rfl
        | consumed row isConsume ofLine ofOrder =>
            rw [filter_row ofLine ofOrder]
            split
            · simp [exposureOfRows, exposureOfRow, isConsume]
            · rfl
        | released row payload isRelease ofLine ofOrder ofAmount =>
            rw [filter_row ofLine ofOrder]
            split
            · rename_i same
              rw [same.1, same.2, nothing] at ofAmount
              simp [exposureOfRows, exposureOfRow, isRelease, ofAmount]
            · rfl
  | invoiced request line row status found stored =>
      rcases follows.invoices _ (fun _ => rfl) row stored with
        ⟨later, laterStored, isLater⟩
      rcases isLater.fields with ⟨sameId, sameOrder, sameReference, _, _,
        sameCurrency, sameTotal, _⟩
      rw [← sameId, ← sameOrder, ← sameReference, ← sameCurrency, ← sameTotal]
      exact .invoiced request line later status (follows.findCredit found)
        laterStored
  | paid request row payment status resolved isPaid recorded reference ofInvoice
      names =>
      rcases follows.resolveInvoice resolved with ⟨later, laterResolved, isLater⟩
      rcases isLater.fields with ⟨sameId, sameOrder, sameReference, _, _, _, _,
        staysPaid⟩
      rw [← sameOrder, ← sameReference]
      apply Remembered.paid request later payment status laterResolved
        (staysPaid isPaid) (follows.findPaymentByReference recorded) reference
        (ofInvoice.trans sameId.symm)
      unfold identityMatchesInvoice at names ⊢
      rw [sameId, sameReference]
      exact names

/-! ## What an effective transaction leaves to be remembered -/

/-- One more row of an order on a line. -/
theorem itemsOf_append_row (db db' : BillingDb) {line : CreditRow}
    (order : OrderNumber) (row : CreditItemRow) (ofLine : row.creditId = line.id)
    (ofOrder : row.orderReference = order)
    (items : db'.creditItems = db.creditItems ++ [row]) :
    db'.itemsOf line.id order = db.itemsOf line.id order ++ [row] := by
  rw [itemsOf, items, List.filter_append, filter_row ofLine ofOrder,
    if_pos ⟨rfl, rfl⟩]
  rfl

theorem hold_remembered {request : CreditHoldRequest} {drawn : Bool}
    {reply : BillingReply} (result : db.hold request drawn = .ok (db', reply))
    (effective : reply.IsEffective = true) :
    db'.Remembered (.creditHold request) reply := by
  unfold hold at result
  rcases bind_eq_ok_iff.mp result with ⟨amount, isMoney, result⟩
  have amountEq : amount = request.amount :=
    Money.of_text_eq_ok (mapError_eq_ok_iff.mp isMoney)
  subst amountEq
  rcases bind_eq_ok_iff.mp result with ⟨credit, locked, result⟩
  rcases lockForOrder_eq_ok locked with ⟨line, found, rfl⟩
  have refusal : ∀ reason,
      db.refuse (db.toBuyerCreditSnapshot line request.orderReference)
          ⟨request.orderReference, request.amount⟩ reason = .ok (db', reply) →
        db'.Remembered (.creditHold request) reply := by
    intro reason refused
    unfold refuse at refused
    rcases bind_eq_ok_iff.mp refused with ⟨credit, _, saved⟩
    cases saved
    cases effective
  cases evaluates : (db.toBuyerCreditSnapshot line
      request.orderReference).evaluateHold
        ⟨request.orderReference, request.amount⟩ with
  | alreadyHeld heldAmount =>
      simp only [evaluates] at result
      cases result
      cases effective
  | currencyMismatch expected =>
      simp only [evaluates] at result
      cases result
  | overLimit available =>
      simp only [evaluates] at result
      exact refusal _ result
  | fits =>
      have first : ¬ db.HasHold line request.orderReference := by
        rw [hasHold_iff_alreadyHeld evaluates]
        simp
      rw [hasHold_iff, Option.not_isSome_iff_eq_none] at first
      simp only [evaluates] at result
      split at result
      · exact refusal _ result
      · rcases bind_eq_ok_iff.mp result with ⟨credit, approved, saved⟩
        simp only [BuyerCredit.approveHold, evaluates] at approved
        cases approved
        cases saved
        refine .held request line
          (db.ledgerRow 0 line request.orderReference .hold request.amount.amount) _
          (mapError_eq_ok_iff.mp isMoney) found ?_
        rw [itemsOf_append_row db _ request.orderReference (db.ledgerRow 0 line
          request.orderReference .hold request.amount.amount) rfl rfl rfl, List.find?_append, first]
        rfl

/-- What ties something up was held. -/
theorem hasHold_of_exposed {line : CreditRow} {order : OrderNumber}
    (releases : ∀ row ∈ db.creditItems, row.type = .release → 0 < row.amount)
    (exposed : 0 < exposureOfRows (db.itemsOf line.id order)) :
    db.HasHold line order := by
  apply not_not.mp
  intro notHeld
  have noHolds : typedSum .hold (db.itemsOf line.id order) = 0 := by
    have none : (db.itemsOf line.id order).filter (·.type = .hold) = [] := by
      rw [List.filter_eq_nil_iff]
      intro row rowMem isHold
      exact notHeld ⟨row, rowMem, of_decide_eq_true isHold⟩
    rw [typedSum, none]
    rfl
  have released : 0 ≤ typedSum .release (db.itemsOf line.id order) := by
    apply List.sum_nonneg
    intro amount amountMem
    rcases List.mem_map.mp amountMem with ⟨row, rowMem, rfl⟩
    rcases List.mem_filter.mp rowMem with ⟨ofOrder, isRelease⟩
    exact Int.le_of_lt (releases row (List.mem_filter.mp ofOrder).1
      (of_decide_eq_true isRelease))
  rw [exposureOfRows_eq, noHolds] at exposed
  omega

theorem releaseCredit_remembered {request : CreditReleaseRequest}
    {reply : BillingReply}
    (releases : ∀ row ∈ db.creditItems, row.type = .release → 0 < row.amount)
    (result : db.releaseCredit request = .ok (db', reply))
    (effective : reply.IsEffective = true) :
    db'.Remembered (.creditRelease request) reply := by
  unfold releaseCredit at result
  rcases bind_eq_ok_iff.mp result with ⟨credit, locked, result⟩
  rcases lockForOrder_eq_ok locked with ⟨line, found, rfl⟩
  rcases bind_eq_ok_iff.mp result with ⟨released, accepted, result⟩
  simp only [BuyerCredit.releaseHold, BuyerCredit.outstanding_snapshot,
    ite_error_eq_ok_iff] at accepted
  rcases accepted with ⟨notNegative, accepted⟩
  split at accepted
  · cases accepted
    cases result
    cases effective
  · rename_i some
    have exposed : 0 < exposureOfRows (db.itemsOf line.id request.orderReference) := by
      omega
    cases accepted
    cases result
    rcases hasHold_of_exposed releases exposed with ⟨holdRow, holdMem, isHold⟩
    refine .released request line _ _ found ?_ ?_
    · refine ⟨holdRow, ?_, isHold⟩
      exact List.mem_filter.mpr ⟨List.mem_append_left _ (List.mem_filter.mp holdMem).1,
        (List.mem_filter.mp holdMem).2⟩
    · rw [itemsOf_append_row db _ request.orderReference (db.ledgerRow 0 line
        request.orderReference .release
          (exposureOfRows (db.itemsOf line.id request.orderReference)))
        rfl rfl rfl, exposureOfRows_append]
      simp [exposureOfRows, exposureOfRow, ledgerRow]

theorem issueInvoice_remembered {request : InvoiceIssueRequest}
    {reply : BillingReply} (result : db.issueInvoice request = .ok (db', reply))
    (effective : reply.IsEffective = true) :
    db'.Remembered (.invoiceIssue request) reply := by
  unfold issueInvoice at result
  rcases bind_eq_ok_iff.mp result with ⟨credit, locked, result⟩
  rcases lockForOrder_eq_ok locked with ⟨line, found, rfl⟩
  split at result
  · cases result
    cases effective
  · rename_i first
    simp only [ite_error_eq_ok_iff] at result
    rcases result with ⟨_, _, result⟩
    rcases bind_eq_ok_iff.mp result with ⟨lines, _, result⟩
    rcases bind_eq_ok_iff.mp result with ⟨discount, _, result⟩
    rcases bind_eq_ok_iff.mp result with ⟨invoice, issued, result⟩
    rcases bind_eq_ok_iff.mp result with ⟨credit', _, result⟩
    rcases bind_eq_ok_iff.mp result with ⟨saved, savedInvoice, result⟩
    rcases issue_eq_ok issued with ⟨_, _, _, _, _, _, ofOrder, _⟩
    simp only [saveInvoice, ite_error_eq_ok_iff, Except.ok.injEq] at savedInvoice
    rcases savedInvoice with ⟨_, rfl⟩
    cases result
    refine .invoiced request line (toInvoiceRow invoice) _ found ?_
    unfold findByOrderReference at first ⊢
    have named : (toInvoiceRow invoice).orderReference = request.orderReference :=
      ofOrder
    simp [saveCredit, generated, List.find?_append, first, named]

/-- A payment that was answered: a repeat of the one recorded, or the first. -/
theorem registerPayment_reply {request : PaymentRegisterRequest}
    {snapshot : InvoiceRow} {reply : BillingReply}
    (result : db.registerPayment request snapshot = .ok (db', reply)) :
    ∃ locked, db.findById snapshot.id = some locked ∧
      ((∃ payment, locked.status = .paid ∧
          db.findPaymentByInvoiceId locked.id = some payment ∧
            payment.paymentReference = request.paymentReference ∧ db' = db ∧
              reply = replyFromDuplicate locked payment) ∨
        (locked.status = .issued ∧
          request.amount = ⟨locked.totalAmount, locked.currencyCode⟩ ∧
            db.findPaymentByReference request.paymentReference = none ∧
              reply = .payment .accepted request.paymentReference
                locked.invoiceReference locked.orderReference .paid ∧
                  db'.invoices = (db.invoices.map fun row =>
                    if row.id = locked.id then { row with status := .paid }
                    else row) ∧
                    db'.payments =
                      db.payments ++ [db.paymentRow request locked.id])) := by
  unfold registerPayment at result
  rcases bind_eq_ok_iff.mp result with ⟨credit, locked, result⟩
  split at result
  · cases result
  · rename_i lockedRow found
    refine ⟨lockedRow, found, ?_⟩
    rcases bind_eq_ok_iff.mp result with ⟨invoice, rebuilt, result⟩
    cases reconstitute_eq_ok rebuilt
    split at result
    · rename_i paidBy paid
      cases result
      unfold paidByRequest at paid
      split at paid
      · rename_i isPaid
        rcases Option.filter_eq_some_iff.mp paid with ⟨stored, sameReference⟩
        exact Or.inl ⟨paidBy, isPaid, stored, of_decide_eq_true sameReference, rfl,
          rfl⟩
      · cases paid
    · rcases bind_eq_ok_iff.mp result with ⟨amount, isMoney, result⟩
      have amountEq : amount = request.amount :=
        Money.of_text_eq_ok (mapError_eq_ok_iff.mp isMoney)
      subst amountEq
      rcases bind_eq_ok_iff.mp result with ⟨invoice', marked, result⟩
      rcases markPaid_eq_ok marked with ⟨payload, _, unpaid, total, rfl⟩
      rcases bind_eq_ok_iff.mp result with ⟨released, accepted, result⟩
      rcases bind_eq_ok_iff.mp result with ⟨marked, savedInvoice, result⟩
      simp only [markPaid, ite_error_eq_ok_iff, Except.ok.injEq] at savedInvoice
      rcases savedInvoice with ⟨fresh, rfl⟩
      cases result
      exact Or.inr ⟨unpaid, total, Option.not_isSome_iff_eq_none.mp fresh, rfl, rfl,
        rfl⟩

end BillingDb

end OrderToCash.Billing
