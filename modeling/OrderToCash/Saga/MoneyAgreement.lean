import OrderToCash.Saga.Amounts

/-!
# The services agree on the money

Orders owes a credit hold and an invoicing for every order it places.  Whatever
else Billing is asked, in any interleaving, what it holds, invoices, is paid and
releases for the order is the order's total.
-/

namespace OrderToCash.Saga

open OrderToCash.Billing
open OrderToCash.Checked
open OrderToCash.Contracts
open OrderToCash.Kernel
open OrderToCash.Orders
open OrderToCash.Transition

/-! ## The specs of the transactions -/

/-- An amount that fits is in the line's currency. -/
theorem currency_of_fits {db : BillingDb} {line : CreditRow} {request : HoldRequest}
    (evaluates : (db.toBuyerCreditSnapshot line
      request.orderReference).evaluateHold request = .fits) :
    line.currencyCode = request.amount.currency := by
  rw [BillingDb.evaluateHold_snapshot] at evaluates
  split at evaluates
  · cases evaluates
  · split at evaluates
    · cases evaluates
    · rename_i same
      exact (not_not.mp same).symm

/-- A hold appends entries to a line of its own currency only. -/
theorem hold_currency {db db' : BillingDb} {request : CreditHoldRequest}
    {drawn : Bool} {reply : BillingReply}
    (result : db.hold request drawn = .ok (db', reply)) :
    db'.creditItems = db.creditItems ∨ ∃ line,
      db.findCredit request.retailerCode request.companyCode = some line ∧
        line.currencyCode = request.amount.currency := by
  unfold BillingDb.hold at result
  rcases bind_eq_ok_iff.mp result with ⟨amount, isMoney, result⟩
  have amountEq : amount = request.amount :=
    Money.of_text_eq_ok (mapError_eq_ok_iff.mp isMoney)
  subst amountEq
  rcases bind_eq_ok_iff.mp result with ⟨credit, locked, result⟩
  rcases BillingDb.lockForOrder_eq_ok locked with ⟨line, found, rfl⟩
  have refusal : ∀ reason,
      db.refuse (db.toBuyerCreditSnapshot line request.orderReference)
          ⟨request.orderReference, request.amount⟩ reason = .ok (db', reply) →
        db'.creditItems = db.creditItems := by
    intro reason refused
    rcases BillingDb.refuse_eq_ok refused with ⟨payload, _, rfl⟩
    exact List.append_nil _
  cases evaluates : (db.toBuyerCreditSnapshot line
      request.orderReference).evaluateHold
        ⟨request.orderReference, request.amount⟩ with
  | alreadyHeld heldAmount =>
      simp only [evaluates] at result
      cases result
      exact Or.inl rfl
  | currencyMismatch expected =>
      simp only [evaluates] at result
      cases result
  | overLimit available =>
      simp only [evaluates] at result
      exact Or.inl (refusal _ result)
  | fits =>
      exact Or.inr ⟨line, found, currency_of_fits evaluates⟩

/-- The invoice of an order is over the order's total. -/
theorem issueInvoice_total {props : OrderProps} (totalled : Totalled props)
    {db db' : BillingDb} {reply : BillingReply}
    (result : db.issueInvoice (invoiceRequestOf props) = .ok (db', reply)) :
    ∀ row ∈ db'.invoices, row ∈ db.invoices ∨
      (row.totalAmount = props.totalAmount.amount ∧
        row.currencyCode = props.totalAmount.currency) := by
  unfold BillingDb.issueInvoice at result
  rcases bind_eq_ok_iff.mp result with ⟨credit, locked, result⟩
  split at result
  · cases result
    exact fun row rowMem => Or.inl rowMem
  · simp only [ite_error_eq_ok_iff] at result
    rcases result with ⟨sameText, _, result⟩
    have sameCurrency : credit.currency = props.totalAmount.currency :=
      CurrencyCode.ext ((not_not.mp sameText).symm.trans totalled.currency.symm)
    rw [invoiceRequestOf, ← totalled.currency, sameCurrency] at result
    rcases bind_eq_ok_iff.mp result with ⟨lines, isLines, result⟩
    rcases bind_eq_ok_iff.mp result with ⟨discount, isDiscount, result⟩
    rcases bind_eq_ok_iff.mp result with ⟨invoice, issued, result⟩
    rcases bind_eq_ok_iff.mp result with ⟨credit', _, result⟩
    rcases bind_eq_ok_iff.mp result with ⟨saved, savedInvoice, result⟩
    have sameLines := (mapError_eq_ok_iff.mp isLines).symm.trans
      (requestLines_sentLine totalled.steps.1 totalled.ofCurrency)
    have sameDiscount := (mapError_eq_ok_iff.mp isDiscount).symm.trans
      totalled.isMoney_discount
    cases sameLines
    cases sameDiscount
    rcases totalled.issue_isOk (db.newId 0) db.nextInvoiceNumber with
      ⟨expected, isExpected, total, currency⟩
    cases issued.symm.trans isExpected
    simp only [BillingDb.saveInvoice, ite_error_eq_ok_iff, Except.ok.injEq]
      at savedInvoice
    rcases savedInvoice with ⟨_, rfl⟩
    cases result
    intro row rowMem
    rcases List.mem_append.mp rowMem with old | new
    · exact Or.inl old
    · rw [List.mem_singleton.mp new]
      right
      constructor
      · exact congrArg Money.amount total
      · exact currency

/-- What a freshly loaded line says the order holds. -/
theorem summary_snapshot (db : BillingDb) (line : CreditRow) (order : OrderNumber) :
    (db.toBuyerCreditSnapshot line order).summary.amountOf order
        OrderExposure.activeHold =
      activeHoldOfRows (db.itemsOf line.id order) := by
  rw [BuyerCredit.summary, amountOf_activeHold]
  have entries : (db.toBuyerCreditSnapshot line order).entries =
      (db.itemsOf line.id order).map (·.toEntry line.currencyCode) :=
    List.append_nil _
  rw [entries]
  exact (orderExposure_toEntry (fun row rowMem =>
    (BillingDb.orderReference_of_mem_itemsOf rowMem).2) _).2

/-- The invoicing of an order that holds something and has no invoice
succeeds. -/
theorem issueInvoice_isOk {props : OrderProps} (totalled : Totalled props)
    {db : BillingDb} (sound : db.Sound) {line : CreditRow}
    (found : db.findCredit props.retailerCode props.companyCode = some line)
    (currency : line.currencyCode = props.totalAmount.currency)
    (first : db.findByOrderReference props.orderReference = none)
    (held : 0 < activeHoldOfRows (db.itemsOf line.id props.orderReference)) :
    ∃ db' reply, db.issueInvoice (invoiceRequestOf props) = .ok (db', reply) ∧
      reply.IsEffective = true := by
  rcases totalled.issue_isOk (db.newId 0) db.nextInvoiceNumber with
    ⟨invoice, issued, total, _⟩
  rcases BillingDb.issue_eq_ok issued with ⟨_, _, _, _, _, _, ofOrder, _⟩
  have locks := BillingDb.locks_of_found sound found props.orderReference
  have ofLine : (db.toBuyerCreditSnapshot line props.orderReference).currency =
      props.totalAmount.currency := currency
  have sameCurrency : ¬ props.totalAmount.currency.text ≠
      props.totalAmount.currency.text := not_not.mpr rfl
  have isHeld : ¬ (db.toBuyerCreditSnapshot line props.orderReference).summary.amountOf
      props.orderReference OrderExposure.activeHold ≤ 0 := by
    rw [summary_snapshot]
    exact Int.not_le.mpr held
  have lines : Billing.BillingDb.requestLines props.totalAmount.currency.text
      (props.lines.map sentLine) = .ok (props.lines.map billedLine) :=
    requestLines_sentLine totalled.steps.1 totalled.ofCurrency
  have consumed : ¬ activeHoldOfRows (db.itemsOf line.id props.orderReference) ≤ 0 :=
    Int.not_le.mpr held
  have unique : ∀ allocated : BillingDb, allocated.invoices = db.invoices →
      ¬ (allocated.findByOrderReference invoice.orderReference).isSome = true := by
    intro allocated same
    rw [Option.not_isSome_iff_eq_none, ofOrder, BillingDb.findByOrderReference, same]
    exact first
  unfold BillingDb.issueInvoice
  simp only [invoiceRequestOf, locks, bind, Except.bind, first, ofLine,
    if_neg sameCurrency, if_neg isHeld, ← totalled.currency, lines, Except.mapError,
    totalled.isMoney_discount, issued,
    BuyerCredit.consumeHold, BuyerCredit.activeHold_snapshot, if_neg consumed,
    BillingDb.saveInvoice]
  rw [if_neg]
  · exact ⟨_, _, rfl, rfl⟩
  · exact unique _ rfl

/-! ## What every state agrees on -/

/-- The invoicing request an action receives. -/
def receivedInvoice? : BillingAction → Option InvoiceIssueRequest
  | .receive (.invoiceIssue request) => some request
  | _ => none

/-- All invoicing requests of the order are its one request. -/
def SameInvoiceRequest (invoice : InvoiceIssueRequest) :
    Guard BillingSystem BillingAction :=
  fun _ action => ∀ request ∈ receivedInvoice? action,
    request.orderReference = invoice.orderReference → request = invoice

instance (invoice : InvoiceIssueRequest) (system : BillingSystem)
    (action : BillingAction) :
    Decidable (SameInvoiceRequest invoice system action) :=
  inferInstanceAs (Decidable (∀ request ∈ receivedInvoice? action, _ → _))

/-- Every recorded payment is of its invoice's total. -/
def PaidInFull (db : BillingDb) : Prop :=
  ∀ payment ∈ db.payments, ∀ row ∈ db.invoices, payment.invoiceId = row.id →
    payment.amount = row.totalAmount ∧ payment.currencyCode = row.currencyCode

/-- Whatever Billing has of the order is of the order's total. -/
structure Agreed (props : OrderProps) (system : BillingSystem) : Prop where
  accounted : system.Accounted (holdRequestOf props)
  booked : system.db.Booked
  amounts : system.AmountsAgree (holdRequestOf props)
  inFull : PaidInFull system.db
  calls : ∀ request, .invoiceIssue request ∈ system.calls →
    request.orderReference = props.orderReference → request = invoiceRequestOf props
  currency : system.db.itemsOfOrder props.orderReference ≠ [] →
    ∀ line, system.db.findCredit props.retailerCode props.companyCode = some line →
      line.currencyCode = props.totalAmount.currency
  invoices : ∀ row ∈ system.db.invoices, row.orderReference = props.orderReference →
    row.totalAmount = props.totalAmount.amount ∧
      row.currencyCode = props.totalAmount.currency
  facts : ∀ fact ∈ system.db.outbox, ∀ report ∈ creditReport? fact,
    report.orderReference = props.orderReference →
      report.currency = props.totalAmount.currency

theorem agreed_initial (catalogue : CreditCatalogue) (props : OrderProps) :
    Agreed props (BillingSystem.initial catalogue) where
  accounted := BillingSystem.accounted_initial catalogue (holdRequestOf props)
  booked := BillingSystem.booked_initial catalogue
  amounts := List.forall_mem_nil _
  inFull := List.forall_mem_nil _
  calls := fun _ absurdity => by cases absurdity
  currency := fun some => absurd rfl some
  invoices := List.forall_mem_nil _
  facts := List.forall_mem_nil _

/-- An order's first ledger entry is its hold. -/
theorem hold_of_firstItems {credit credit' : OrderCredit} {call : BillingCall}
    (move : credit.Move call credit') (none : credit.items = [])
    (some : credit'.items ≠ []) : ∃ request, call = .creditHold request := by
  have unexposed : credit.exposure = 0 := by
    rw [OrderCredit.exposure, none]
    rfl
  have nothing : ∀ {reason rows facts}, credit.Release reason rows facts →
      rows = [] := by
    intro reason rows facts release
    cases release with
    | nothing => rfl
    | released row payload exposed =>
        rw [unexposed] at exposed
        exact absurd exposed (by decide)
  cases move with
  | holdRepeated request | refused request | approved request => exact ⟨request, rfl⟩
  | elsewhere | invoiceRepeated | paymentRepeated => exact absurd none some
  | released request rows facts release =>
      apply absurd _ some
      simp [OrderCredit.posted, none, nothing release]
  | issued request invoice payload row first held =>
      rw [OrderCredit.activeHold, none] at held
      exact absurd held (by decide)
  | paid request snapshot locked payment payload rows facts only unpaid release =>
      apply absurd _ some
      simp [OrderCredit.posted, OrderCredit.withPayment, none, nothing release]

/-- A report comes with a ledger row of its order on its line. -/
theorem row_of_report {db : BillingDb} {line : CreditRow} {order : OrderNumber}
    {rows : List CreditItemRow} {facts : List Fact}
    (effect : db.LedgerEffect line order rows facts) {fact : Fact}
    (factMem : fact ∈ facts) {report : CreditReport}
    (isReport : report ∈ creditReport? fact) :
    report.orderReference = order ∧ report.currency = line.currencyCode ∧
      ∃ row ∈ rows, row.creditId = line.id ∧ row.orderReference = order := by
  cases effect with
  | nothing facts silent =>
      rw [silent fact factMem] at isReport
      cases isReport
  | held row payload first isHold ofLine ofOrder told =>
      rw [List.mem_singleton.mp factMem, told] at isReport
      cases isReport
      exact ⟨rfl, rfl, row, List.mem_singleton_self row, ofLine, ofOrder⟩
  | consumed => cases factMem
  | released row payload isRelease ofLine ofOrder amount told =>
      rw [List.mem_singleton.mp factMem, told] at isReport
      cases isReport
      exact ⟨rfl, rfl, row, List.mem_singleton_self row, ofLine, ofOrder⟩

/-! ## What a transaction keeps -/

namespace Agreed

variable {props : OrderProps} {system : BillingSystem} {drawn : Bool}
  {call : BillingCall} {db : BillingDb} {reply : BillingReply}

/-- A line an order has entries on is in the currency of its total. -/
theorem currency_transaction (agreed : Agreed props system)
    (callMem : call ∈ system.calls)
    (result : BillingSystem.transaction system.db drawn call = some (.ok (db, reply))) :
    db.itemsOfOrder props.orderReference ≠ [] →
      ∀ line, db.findCredit props.retailerCode props.companyCode = some line →
        line.currencyCode = props.totalAmount.currency := by
  intro some line found
  have sameLines := (BillingSystem.follows_transaction result).sameLines
  rw [BillingDb.findCredit, sameLines] at found
  by_cases none : system.db.itemsOfOrder props.orderReference = []
  · rcases BillingSystem.orderCredit_transaction agreed.accounted callMem result with
      ⟨_, same⟩ | ⟨ofOrder, move⟩
    · exact absurd ((congrArg OrderCredit.items same).trans none) some
    · rcases hold_of_firstItems move none some with ⟨request, rfl⟩
      have same : request = holdRequestOf props :=
        agreed.accounted.ready _ callMem (Option.some.inj ofOrder)
      subst same
      rcases hold_currency (Option.some.inj result) with unchanged | ⟨other, isOther,
        currency⟩
      · apply absurd _ some
        rw [BillingDb.itemsOfOrder, unchanged]
        exact none
      · cases Option.some.inj (isOther.symm.trans found)
        exact currency
  · exact agreed.currency none line found

/-- What is told of an order's credit is told in the currency of its total. -/
theorem facts_transaction (agreed : Agreed props system)
    (callMem : call ∈ system.calls)
    (result : BillingSystem.transaction system.db drawn call = some (.ok (db, reply))) :
    ∀ fact ∈ db.outbox, ∀ report ∈ creditReport? fact,
      report.orderReference = props.orderReference →
        report.currency = props.totalAmount.currency := by
  rcases BillingSystem.posted_transaction result with ⟨line, order, credit, posted⟩
  rcases posted.recorded with ⟨before, silent, outbox⟩
  intro fact factMem report isReport ofOrder
  rw [outbox] at factMem
  rcases List.mem_append.mp factMem with stored | new
  · rcases List.mem_append.mp stored with old | told
    · exact agreed.facts fact old report isReport ofOrder
    · rw [silent fact told] at isReport
      cases isReport
  · rcases row_of_report (BillingDb.ledgerEffect_of_operated posted.operated).2.1 new
      isReport with ⟨sameOrder, sameCurrency, row, rowMem, ofLine, rowOf⟩
    have grown := BillingSystem.grown_transaction agreed.accounted.sound
      agreed.accounted.onLine agreed.accounted.invoicedTo
      (agreed.accounted.ready call callMem) result
    have isOrder : order = props.orderReference := sameOrder.symm.trans ofOrder
    have stored : row ∈ db.itemsOfOrder props.orderReference := by
      apply List.mem_filter.mpr
      constructor
      · rw [posted.creditItems_eq]
        exact List.mem_append_right _ rowMem
      · exact decide_eq_true (rowOf.trans isOrder)
    rcases grown.onLine row stored with ⟨own, found, sameId⟩
    have sound := BillingSystem.sound_transaction agreed.accounted.sound result
    have lineMem : line ∈ db.credits := by
      rw [posted.sameLines]
      exact posted.stored
    cases List.inj_on_of_nodup_map sound.lineIds lineMem
      (BillingDb.findCredit_eq_some found).1 (ofLine.symm.trans sameId)
    rw [sameCurrency]
    exact agreed.currency_transaction callMem result (List.ne_nil_of_mem stored) line
      found

/-- The invoices of an order are of its total. -/
theorem invoices_transaction (totalled : Totalled props) (agreed : Agreed props system)
    (callMem : call ∈ system.calls)
    (result : BillingSystem.transaction system.db drawn call = some (.ok (db, reply))) :
    ∀ row ∈ db.invoices, row.orderReference = props.orderReference →
      row.totalAmount = props.totalAmount.amount ∧
        row.currencyCode = props.totalAmount.currency := by
  intro row rowMem ofOrder
  cases call with
  | creditHold request =>
      rcases BillingDb.hold_effect (Option.some.inj result) with ⟨_, _, effect⟩
      cases effect with
      | repeated | refused | approved => exact agreed.invoices row rowMem ofOrder
  | creditRelease request =>
      rcases BillingDb.releaseCredit_effect (Option.some.inj result) with
        ⟨_, rows, facts, count, _, _, rfl⟩
      exact agreed.invoices row rowMem ofOrder
  | invoiceIssue request =>
      rcases BillingDb.issueInvoice_effect (Option.some.inj result) with
        ⟨line, _, effect⟩
      by_cases same : request.orderReference = props.orderReference
      · cases agreed.calls request callMem same
        rcases issueInvoice_total totalled (Option.some.inj result) row rowMem with
          old | ofTotal
        · exact agreed.invoices row old ofOrder
        · exact ofTotal
      · cases effect with
        | repeated => exact agreed.invoices row rowMem ofOrder
        | issued invoice payload first held identifier reference invoiceOf =>
            rcases List.mem_append.mp rowMem with old | new
            · exact agreed.invoices row old ofOrder
            · rw [List.mem_singleton.mp new] at ofOrder
              exact absurd (invoiceOf.symm.trans ofOrder) same
  | paymentLooked request => cases result
  | paymentRegister request snapshot =>
      rcases BillingDb.registerPayment_effect (Option.some.inj result) with
        ⟨_, _, effect⟩
      cases effect with
      | repeated => exact agreed.invoices row rowMem ofOrder
      | paid locked =>
          rcases List.mem_map.mp rowMem with ⟨before, beforeMem, rfl⟩
          have ofTotal := agreed.invoices before beforeMem
          revert ofOrder
          split
          · exact ofTotal
          · exact ofTotal

/-- A payment is of the total of the invoice it names. -/
theorem inFull_transaction (agreed : Agreed props system)
    (result : BillingSystem.transaction system.db drawn call = some (.ok (db, reply))) :
    PaidInFull db := by
  have sound := agreed.accounted.sound
  cases call with
  | creditHold request =>
      rcases BillingDb.hold_effect (Option.some.inj result) with ⟨_, _, effect⟩
      cases effect with
      | repeated | refused | approved => exact agreed.inFull
  | creditRelease request =>
      rcases BillingDb.releaseCredit_effect (Option.some.inj result) with
        ⟨_, rows, facts, count, _, _, rfl⟩
      exact agreed.inFull
  | invoiceIssue request =>
      rcases BillingDb.issueInvoice_effect (Option.some.inj result) with
        ⟨line, _, effect⟩
      cases effect with
      | repeated => exact agreed.inFull
      | issued invoice payload first held identifier =>
          intro payment paymentMem row rowMem names
          rcases List.mem_append.mp rowMem with old | new
          · exact agreed.inFull payment paymentMem row old names
          · rcases List.mem_map.mp (sound.ofInvoice payment paymentMem) with
              ⟨other, otherMem, otherId⟩
            have generated := sound.invoiceGenerated other otherMem
            rw [otherId, names, List.mem_singleton.mp new, identifier] at generated
            exact absurd generated (Nat.lt_irrefl system.db.nextId)
  | paymentLooked request => cases result
  | paymentRegister request snapshot =>
      rcases BillingDb.registerPayment_reply (Option.some.inj result) with
        ⟨locked, found, ⟨_, _, _, _, rfl, _⟩ | ⟨_, total, _, _, invoices, payments⟩⟩
      · exact agreed.inFull
      · intro payment paymentMem row rowMem names
        rw [payments] at paymentMem
        rw [invoices] at rowMem
        rcases List.mem_map.mp rowMem with ⟨before, beforeMem, isRow⟩
        have kept : row.id = before.id ∧ row.totalAmount = before.totalAmount ∧
            row.currencyCode = before.currencyCode := by
          rw [← isRow]
          split <;> exact ⟨rfl, rfl, rfl⟩
        rw [kept.2.1, kept.2.2]
        rw [kept.1] at names
        rcases List.mem_append.mp paymentMem with old | new
        · exact agreed.inFull payment old before beforeMem names
        · rw [List.mem_singleton.mp new] at names ⊢
          have lockedMem : locked ∈ system.db.invoices := List.mem_of_find?_eq_some found
          cases List.inj_on_of_nodup_map sound.invoiceIds lockedMem beforeMem names
          simp only [BillingDb.paymentRow, total, and_self]

theorem commit (totalled : Totalled props) (agreed : Agreed props system)
    (callMem : call ∈ system.calls)
    (result : BillingSystem.transaction system.db drawn call = some (.ok (db, reply)))
    {system' : BillingSystem} (sameDb : system'.db = db)
    (accounted : system'.Accounted (holdRequestOf props))
    (amounts : system'.AmountsAgree (holdRequestOf props))
    (remaining : ∀ other ∈ system'.calls, other ∈ system.calls) :
    Agreed props system' := by
  subst sameDb
  exact
    { accounted := accounted
      booked := BillingSystem.booked_transaction agreed.booked agreed.accounted.sound
        result
      amounts := amounts
      inFull := agreed.inFull_transaction result
      calls := fun request requestMem => agreed.calls request (remaining _ requestMem)
      currency := agreed.currency_transaction callMem result
      invoices := agreed.invoices_transaction totalled callMem result
      facts := agreed.facts_transaction callMem result }

/-- Calls may come and go as long as they bring no other invoicing of the
order. -/
theorem of_db (agreed : Agreed props system) {system' : BillingSystem}
    (sameDb : system'.db = system.db)
    (accounted : system'.Accounted (holdRequestOf props))
    (calls : ∀ request, .invoiceIssue request ∈ system'.calls →
      .invoiceIssue request ∈ system.calls ∨
        (request.orderReference = props.orderReference →
          request = invoiceRequestOf props)) : Agreed props system' where
  accounted := accounted
  booked := sameDb ▸ agreed.booked
  amounts := by
    unfold BillingSystem.AmountsAgree
    rw [sameDb]
    exact agreed.amounts
  inFull := sameDb ▸ agreed.inFull
  calls := by
    intro request requestMem
    rcases calls request requestMem with old | new
    · exact agreed.calls request old
    · exact new
  currency := sameDb ▸ agreed.currency
  invoices := sameDb ▸ agreed.invoices
  facts := sameDb ▸ agreed.facts

end Agreed

theorem agreed_step {props : OrderProps} (totalled : Totalled props)
    {system system' : BillingSystem} {action : BillingAction}
    (agreed : Agreed props system)
    (sameHold : BillingSystem.SameHoldRequest (holdRequestOf props) system action)
    (sameInvoice : SameInvoiceRequest (invoiceRequestOf props) system action)
    (stepped : BillingSystem.step system action = some system') :
    Agreed props system' := by
  have accounted := BillingSystem.accounted_step agreed.accounted sameHold stepped
  have amounts := BillingSystem.amountsAgree_step agreed.accounted agreed.amounts
    stepped
  cases BillingSystem.step_change stepped with
  | received request call serves unresolved =>
      refine agreed.of_db rfl accounted fun invoice invoiceMem => ?_
      rcases List.mem_append.mp invoiceMem with old | new
      · exact Or.inl old
      · cases List.mem_singleton.mp new
        subst serves
        exact Or.inr (sameInvoice invoice rfl)
  | alreadyInvoiced | alreadyRecorded =>
      exact agreed.of_db rfl accounted fun invoice invoiceMem => Or.inl invoiceMem
  | unknownInvoice | refused | aborted =>
      exact agreed.of_db rfl accounted fun invoice invoiceMem =>
        Or.inl (BillingSystem.mem_of_mem_finished invoiceMem)
  | resolved index request invoice looked found =>
      refine agreed.of_db rfl accounted fun invoice invoiceMem => ?_
      rcases List.mem_append.mp invoiceMem with old | new
      · exact Or.inl (BillingSystem.mem_of_mem_finished old)
      · cases List.mem_singleton.mp new
  | committed index drawn call db reply found result =>
      exact agreed.commit totalled (List.mem_of_getElem? found) result rfl accounted
        amounts fun other otherMem => BillingSystem.mem_of_mem_finished otherMem

/-! ## The agreement -/

/-- Every ledger entry of an order is of the amount of its hold. -/
theorem amount_of_item {system : BillingSystem} {hold : CreditHoldRequest}
    (accounted : system.Accounted hold) :
    ∀ row ∈ system.db.creditItems, row.orderReference = hold.orderReference →
      row.amount = hold.amount.amount := by
  intro row rowMem ofOrder
  rcases accounted.consistent with ⟨phase, inPhase⟩
  have entries := congrArg CreditTraces.entries inPhase.leftBehind
  have listed : (row.type, row.amount) ∈
      (OrderCredit.tracesOf hold.amount.amount phase).entries := by
    rw [← entries]
    apply List.mem_map_of_mem
    exact List.mem_filter.mpr ⟨rowMem, decide_eq_true ofOrder⟩
  revert listed
  cases phase with
  | unheld => exact fun absurdity => by cases absurdity
  | held | invoiced | returned | invoicedReturned | paid | paidReturned =>
      simp only [OrderCredit.tracesOf, List.mem_cons, List.not_mem_nil, or_false,
        Prod.mk.injEq]
      rintro listed
      omega

/-- What an invoice is issued from, for the order's one request. -/
def issueInput (props : OrderProps) (id : UniqueId) (invoiceReference : Nat)
    (lines : List Billing.InvoiceLine) (discount : Money) : IssueInvoiceInput :=
  { id := id
    invoiceReference := invoiceReference
    orderReference := props.orderReference
    retailerCode := props.retailerCode
    companyCode := props.companyCode
    currency := props.totalAmount.currency
    lines := lines
    discount := discount }

/-- The payloads Orders builds are of the order's total, and Billing accepts
them with that total. -/
structure PayloadsAgree (props : OrderProps) : Prop where
  hold : ∀ fact, buildSagaCommandPayload .creditHold props fact =
    .ok (.creditHold (holdRequestOf props)) ∧
      (holdRequestOf props).amount = props.totalAmount
  invoice : ∀ fact, buildSagaCommandPayload .invoiceIssue props fact =
    .ok (.invoiceIssue (invoiceRequestOf props)) ∧
      InvoiceIssueRequestDto (invoiceRequestOf props)
  issued : (invoiceRequestOf props).currency = props.totalAmount.currency.text ∧
    ∃ lines discount,
      BillingDb.requestLines (invoiceRequestOf props).currency
        (invoiceRequestOf props).lines = .ok lines ∧
      Money.of (invoiceRequestOf props).discount (invoiceRequestOf props).currency =
          .ok discount ∧
        ∀ id reference, ∃ invoice,
          Invoice.issue (issueInput props id reference lines discount) = .ok invoice ∧
            invoice.totalAmount = props.totalAmount ∧
              ∃ rebuilt, (toInvoiceRow invoice).toInvoiceSnapshot.reconstitute =
                .ok rebuilt

theorem payloadsAgree_of_totalled {props : OrderProps} (totalled : Totalled props)
    (nonneg : ∀ line ∈ props.lines,
      0 ≤ line.unitPrice.amount ∧ 0 ≤ line.lineDiscount.amount) :
    PayloadsAgree props where
  hold fact := ⟨(payloads_of_totalled totalled fact).1, rfl⟩
  invoice fact := ⟨(payloads_of_totalled totalled fact).2, totalled.dto nonneg⟩
  issued := by
    have sameText : (invoiceRequestOf props).currency =
        props.totalAmount.currency.text := totalled.currency.symm
    rw [sameText]
    refine ⟨rfl, _, _, requestLines_sentLine totalled.steps.1 totalled.ofCurrency,
      totalled.isMoney_discount, fun id reference => ?_⟩
    rcases totalled.issue_isOk id reference with ⟨invoice, issued, total, _⟩
    rcases Invoice.toInvoiceSnapshot_of_issue issued with ⟨snapshot, rebuilds⟩
    refine ⟨invoice, issued, total, ?_⟩
    rw [snapshot]
    exact ⟨_, rebuilds⟩

/-- What Billing holds, invoices, is paid and releases for the order. -/
structure BillingAgrees (props : OrderProps) (system : BillingSystem) : Prop where
  /-- The hold, the consumption and the release. -/
  entries : ∀ row ∈ system.db.creditItems, row.orderReference = props.orderReference →
    row.amount = props.totalAmount.amount ∧
      ∃ line ∈ system.db.credits, line.id = row.creditId ∧
        line.currencyCode = props.totalAmount.currency
  invoices : ∀ row ∈ system.db.invoices, row.orderReference = props.orderReference →
    (⟨row.totalAmount, row.currencyCode⟩ : Money) = props.totalAmount ∧
      ∃ rebuilt, row.toInvoiceSnapshot.reconstitute = .ok rebuilt
  /-- The first invoicing of the order succeeds while the order is held. -/
  issuable : (system.db.orderCredit props.orderReference).HasHold →
    (∀ row ∈ system.db.itemsOfOrder props.orderReference, row.type ≠ .release) →
      system.db.findByOrderReference props.orderReference = none →
        ∃ db reply, system.db.issueInvoice (invoiceRequestOf props) =
          .ok (db, reply) ∧ reply.IsEffective = true
  /-- The only amount a payment of its invoice is accepted by. -/
  payments : ∀ request snapshot, .paymentRegister request snapshot ∈ system.calls →
    snapshot.orderReference = props.orderReference →
      (∀ db reply, system.db.registerPayment request snapshot = .ok (db, reply) →
        reply.IsEffective = true → request.amount = props.totalAmount) ∧
      (∀ locked, system.db.findById snapshot.id = some locked →
        locked.status = .issued →
          system.db.findPaymentByReference request.paymentReference = none →
            request.amount = props.totalAmount →
              ∃ db reply, system.db.registerPayment request snapshot =
                .ok (db, reply) ∧ reply.IsEffective = true)
  /-- The amounts recorded as paid. -/
  recorded : ∀ payment ∈ system.db.paymentsOf props.orderReference,
    (⟨payment.amount, payment.currencyCode⟩ : Money) = props.totalAmount
  /-- What is told to be held and released. -/
  told : ∀ fact ∈ system.db.outbox, ∀ report ∈ creditReport? fact,
    report.orderReference = props.orderReference →
      (⟨report.amount, report.currency⟩ : Money) = props.totalAmount

/-- An order without a release is in a phase without one. -/
theorem unreleased_of_inPhase {credit : OrderCredit} {amount : Int}
    {phase : CreditPhase} (inPhase : credit.InPhase amount phase)
    (unreleased : ∀ row ∈ credit.items, row.type ≠ .release) :
    phase = .unheld ∨ phase = .held ∨ phase = .invoiced := by
  have entries := congrArg CreditTraces.entries inPhase.leftBehind
  have none : (CreditEntryType.release, amount) ∉
      (OrderCredit.tracesOf amount phase).entries := by
    rw [← entries]
    intro listed
    rcases List.mem_map.mp listed with ⟨row, rowMem, isRelease⟩
    exact unreleased row rowMem (Prod.mk.inj isRelease).1
  cases phase with
  | unheld => exact Or.inl rfl
  | held => exact Or.inr (Or.inl rfl)
  | invoiced => exact Or.inr (Or.inr rfl)
  | returned | invoicedReturned | paid | paidReturned =>
      simp [OrderCredit.tracesOf] at none

namespace Agreed

variable {props : OrderProps} {system : BillingSystem}

/-- An order that is held and has no invoice is in the phase of a mere hold. -/
theorem held_of_hold (agreed : Agreed props system)
    (hasHold : (system.db.orderCredit props.orderReference).HasHold)
    (unreleased : ∀ row ∈ system.db.itemsOfOrder props.orderReference,
      row.type ≠ .release)
    (first : system.db.findByOrderReference props.orderReference = none) :
    (system.db.orderCredit props.orderReference).InPhase props.totalAmount.amount
      .held := by
  rcases agreed.accounted.consistent with ⟨phase, inPhase⟩
  have invoices := inPhase.invoices_eq
  have none : (system.db.orderCredit (holdRequestOf props).orderReference).invoices = [] :=
    BillingDb.invoicesOf_eq_nil first
  rw [none] at invoices
  rcases unreleased_of_inPhase inPhase unreleased with rfl | rfl | rfl
  · exact absurd rfl (inPhase.hasHold_iff.mp hasHold)
  · exact inPhase
  · cases invoices

theorem issuable (totalled : Totalled props) (positive : 0 < props.totalAmount.amount)
    (agreed : Agreed props system)
    (hasHold : (system.db.orderCredit props.orderReference).HasHold)
    (unreleased : ∀ row ∈ system.db.itemsOfOrder props.orderReference,
      row.type ≠ .release)
    (first : system.db.findByOrderReference props.orderReference = none) :
    ∃ db reply, system.db.issueInvoice (invoiceRequestOf props) = .ok (db, reply) ∧
      reply.IsEffective = true := by
  have inPhase := agreed.held_of_hold hasHold unreleased first
  rcases hasHold with ⟨row, rowMem, _⟩
  rcases agreed.accounted.onLine row rowMem with ⟨line, found, _⟩
  have all := BillingDb.itemsOf_eq agreed.accounted.onLine found
  apply issueInvoice_isOk totalled agreed.accounted.sound found _ first
  · have active := inPhase.activeHold_eq
    change activeHoldOfRows (system.db.itemsOfOrder props.orderReference) = _ at active
    rw [if_pos rfl] at active
    change system.db.itemsOf line.id props.orderReference =
      system.db.itemsOfOrder props.orderReference at all
    rw [all, active]
    omega
  · exact agreed.currency (List.ne_nil_of_mem rowMem) line found

theorem payments (agreed : Agreed props system) (request : PaymentRegisterRequest)
    (snapshot : InvoiceRow)
    (callMem : .paymentRegister request snapshot ∈ system.calls)
    (ofOrder : snapshot.orderReference = props.orderReference) :
    (∀ db reply, system.db.registerPayment request snapshot = .ok (db, reply) →
        reply.IsEffective = true → request.amount = props.totalAmount) ∧
      (∀ locked, system.db.findById snapshot.id = some locked →
        locked.status = .issued →
          system.db.findPaymentByReference request.paymentReference = none →
            request.amount = props.totalAmount →
              ∃ db reply, system.db.registerPayment request snapshot =
                .ok (db, reply) ∧ reply.IsEffective = true) := by
  have ofTotal : ∀ locked, system.db.findById snapshot.id = some locked →
      (⟨locked.totalAmount, locked.currencyCode⟩ : Money) = props.totalAmount := by
    intro locked found
    rcases BillingSystem.stored_of_ready agreed.accounted.sound
      (agreed.accounted.ready _ callMem) found with ⟨lockedMem, sameOrder, _⟩
    rcases agreed.invoices locked lockedMem (sameOrder.trans ofOrder) with
      ⟨amount, currency⟩
    rw [amount, currency]
  constructor
  · intro db reply result effective
    rcases BillingDb.registerPayment_reply result with
      ⟨locked, found, ⟨_, _, _, _, _, rfl⟩ | ⟨_, total, _⟩⟩
    · cases effective
    · exact total.trans (ofTotal locked found)
  · intro locked found unpaid first isTotal
    rcases BillingSystem.stored_of_ready agreed.accounted.sound
      (agreed.accounted.ready _ callMem) found with
      ⟨lockedMem, sameOrder, sameRetailer, sameCompany⟩
    have settled := BillingSystem.payable_settled agreed.accounted.sound agreed.booked
      found sameRetailer sameCompany unpaid (isTotal.trans (ofTotal locked found).symm)
      (fun line _ => by
        rw [ofOrder]
        apply BillingSystem.exposure_nonneg agreed.accounted line
        exact List.ne_nil_of_mem (List.mem_filter.mpr
          ⟨lockedMem, decide_eq_true (sameOrder.trans ofOrder)⟩))
    exact settled.1 first

theorem billingAgrees (totalled : Totalled props)
    (positive : 0 < props.totalAmount.amount) (agreed : Agreed props system) :
    BillingAgrees props system where
  entries := by
    intro row rowMem ofOrder
    refine ⟨amount_of_item agreed.accounted row rowMem ofOrder, ?_⟩
    have stored : row ∈ system.db.itemsOfOrder props.orderReference :=
      List.mem_filter.mpr ⟨rowMem, decide_eq_true ofOrder⟩
    rcases agreed.accounted.onLine row stored with ⟨line, found, same⟩
    exact ⟨line, (BillingDb.findCredit_eq_some found).1, same.symm,
      agreed.currency (List.ne_nil_of_mem stored) line found⟩
  invoices := by
    intro row rowMem ofOrder
    rcases agreed.invoices row rowMem ofOrder with ⟨amount, currency⟩
    constructor
    · rw [amount, currency]
    · exact ⟨_, agreed.booked.rebuilds row rowMem⟩
  issuable := agreed.issuable totalled positive
  payments := agreed.payments
  recorded := by
    intro payment paymentMem
    rcases List.mem_filter.mp paymentMem with ⟨stored, named⟩
    rcases List.any_eq_true.mp named with ⟨row, rowMem, names⟩
    rcases List.mem_filter.mp rowMem with ⟨invoiceMem, ofOrder⟩
    rcases agreed.inFull payment stored row invoiceMem
      (of_decide_eq_true names).symm with ⟨amount, currency⟩
    rcases agreed.invoices row invoiceMem (of_decide_eq_true ofOrder) with
      ⟨total, ofTotal⟩
    rw [amount, currency, total, ofTotal]
  told := by
    intro fact factMem report isReport ofOrder
    have currency := agreed.facts fact factMem report isReport ofOrder
    have amount : report.amount = props.totalAmount.amount := by
      have ofAmount := agreed.amounts fact factMem
      cases fact with
      | creditApproved payload | creditReleased payload =>
          cases isReport
          exact ofAmount ofOrder
      | orderPlaced | orderConfirmed | orderCompleted | orderCancelled
      | orderSagaFailed | stockReserved | stockRejected | stockReleased
      | orderDespatched | creditRejected | invoiceIssued | paymentReceived =>
          cases isReport
    rw [amount, currency]

end Agreed

/-- One product on two lines, the second with a discount larger than itself. -/
def discountedInput : PlaceOrderInput where
  orderReference := ⟨1⟩
  retailerCode := "RET-0001"
  companyCode := "COM-0001"
  currency := "EUR"
  lines :=
    [ ⟨"PRD-0001", "", 3, ⟨200, .eur⟩, ⟨0, .eur⟩⟩,
      ⟨"PRD-0001", "", 1, ⟨100, .eur⟩, ⟨150, .eur⟩⟩ ]
  notes := none

/-- The order is held, invoiced and paid beside another. -/
def paidInFull (props : OrderProps) : List BillingAction :=
  [ .receive (.creditHold (holdRequestOf props)),
    .receive (.creditHold (BillingSystem.holdOf 2 300)),
    .run 1 false,
    .run 0 false,
    .receive (.invoiceIssue (invoiceRequestOf props)),
    .run 0 false,
    .receive (.paymentRegister
      ⟨.absent, .given 1, ⟨"PAY-0001", "PAY-0001"⟩, props.totalAmount, .robot⟩),
    .locate 0,
    .run 0 false ]

end OrderToCash.Saga
