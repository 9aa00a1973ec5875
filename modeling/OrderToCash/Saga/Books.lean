import OrderToCash.Billing.CreditView
import OrderToCash.Saga.Backing

/-!
# The books of a credit line

What the credit list shows of a line is what the line's retailer owes its
company: the open exposure is that of the unpaid invoices between them, and the
active holds are the totals of the orders between them that are held and not
invoiced yet.  Nothing else ties up credit, whatever is delivered again,
interleaved or cancelled.
-/

namespace OrderToCash.Saga

open OrderToCash.Billing
open OrderToCash.Checked
open OrderToCash.Contracts
open OrderToCash.Fulfillment
open OrderToCash.Kernel
open OrderToCash.Orders
open OrderToCash.Table
open OrderToCash.Transition

/-! ## Holds are never of a negative amount -/

/-- The ledger the saga reaches is one the operations of Billing build. -/
theorem ledger_of_reachable {stock : StockCatalogue} {credits : CreditCatalogue}
    {system : SagaSystem}
    (reached : Reachable SagaSystem.step unguarded (SagaSystem.initial stock credits)
      system) :
    system.billing.LinesKept ∧ LedgerReached credits system.billing.db := by
  induction reached with
  | refl => exact ⟨BillingSystem.linesKept_initial credits, .seeded⟩
  | tail path admitted stepped inductionHypothesis =>
      rename_i before after action
      rcases inductionHypothesis with ⟨kept, ledger⟩
      rcases SagaSystem.step_eq_some.mp stepped with ⟨enabled, acted⟩
      cases action with
      | orders action =>
          simp only [SagaSystem.act, Option.map_eq_some_iff] at acted
          rcases acted with ⟨orders, _, rfl⟩
          exact ⟨kept, ledger⟩
      | fulfillment action =>
          simp only [SagaSystem.act, Option.map_eq_some_iff] at acted
          rcases acted with ⟨fulfillment, _, rfl⟩
          exact ⟨kept, ledger⟩
      | billing action =>
          simp only [SagaSystem.act, Option.map_eq_some_iff] at acted
          rcases acted with ⟨billing, serviceStepped, rfl⟩
          have nonneg : BillingSystem.NonnegativeHolds before.billing action := by
            intro request received
            cases action with
            | receive request' =>
                cases request' with
                | creditHold hold =>
                    cases received
                    have owes : before.orders.db.Owes (.creditHold request) := enabled _ rfl
                    rcases exists_represented request.orderReference path with
                      ⟨saga, represents⟩
                    rcases exists_holdOf represents path with ⟨own, holdOf⟩
                    rw [holdOf.asked request rfl owes]
                    exact holdOf.nonneg
                | creditRelease | invoiceIssue | paymentRegister => cases received
            | locate | run | abort => cases received
          exact ⟨BillingSystem.linesKept_step kept nonneg serviceStepped,
            BillingSystem.ledgerReached_step kept ledger serviceStepped⟩

/-! ## What an order ties up on a line -/

/-- What an order holds on a line without an invoice is what its rows there do. -/
theorem activeHold_ledgerOf (db : BillingDb) (line : CreditRow) (order : OrderNumber) :
    (orderExposure (db.ledgerOf line) order).activeHold =
      activeHoldOfRows (db.itemsOf line.id order) := by
  have ofOrder : ∀ row ∈ db.itemsOf line.id order, row.orderReference = order :=
    fun row rowMem => (BillingDb.orderReference_of_mem_itemsOf rowMem).2
  rw [← (orderExposure_toEntry ofOrder line.currencyCode).2,
    ← orderExposure_filter, BillingDb.ledgerOf, List.filter_map, List.filter_filter]
  congr 3
  apply List.filter_congr
  intro row _
  simp [CreditItemRow.toEntry, and_comm]

theorem openExposure_ledgerOf (db : BillingDb) (line : CreditRow) (order : OrderNumber) :
    (orderExposure (db.ledgerOf line) order).openExposure =
      exposureOfRows (db.itemsOf line.id order) -
        activeHoldOfRows (db.itemsOf line.id order) := by
  rw [← BillingDb.orderExposure_ledgerOf, ← activeHold_ledgerOf]
  simp only [orderExposure]
  omega

/-- The unpaid invoices the line's company has made out to its retailer. -/
def unpaidOf (db : BillingDb) (line : CreditRow) : List InvoiceRow :=
  db.invoices.filter fun invoice =>
    invoice.status = .issued ∧ invoice.retailerCode = line.retailerCode ∧
      invoice.companyCode = line.companyCode

/-- The order's total is held on the line, not returned, and not invoiced yet. -/
structure SetAside (system : SagaSystem) (line : CreditRow) (props : OrderProps) :
    Prop where
  stored : system.orders.db.orders props.orderReference = some props
  ofLine : props.retailerCode = line.retailerCode ∧ props.companyCode = line.companyCode
  held : HeldInFull props system.billing.db
  notReturned : ¬ system.HoldReturned props.orderReference
  uninvoiced : system.billing.db.invoicesOf props.orderReference = []

/-- The unpaid invoices of an order add up to its total while it is invoiced. -/
theorem unpaid_of_phase {db : BillingDb} {line : CreditRow} {order : OrderNumber}
    {amount : Int} {phase : CreditPhase}
    (inPhase : (db.orderCredit order).InPhase amount phase)
    (named : db.InvoicedTo order line.retailerCode line.companyCode)
    (totals : ∀ invoice ∈ db.invoicesOf order, invoice.totalAmount = amount) :
    (((unpaidOf db line).filter (·.orderReference = order)).map
        InvoiceRow.totalAmount).sum =
      if phase = .invoiced ∨ phase = .invoicedReturned then amount else 0 := by
  have ofOrder : (unpaidOf db line).filter (·.orderReference = order) =
      (db.invoicesOf order).filter (·.status = .issued) := by
    rw [unpaidOf, BillingDb.invoicesOf, List.filter_filter, List.filter_filter]
    apply List.filter_congr
    intro invoice invoiceMem
    by_cases isOrder : invoice.orderReference = order
    · have codes := named invoice (List.mem_filter.mpr ⟨invoiceMem, decide_eq_true isOrder⟩)
      simp [isOrder, codes]
    · simp [isOrder]
  have statuses : (db.invoicesOf order).map InvoiceRow.status =
      (OrderCredit.tracesOf amount phase).invoices := inPhase.invoices_eq
  rw [ofOrder]
  cases phase with
  | unheld | held | returned =>
      rw [List.map_eq_nil_iff.mp statuses]
      simp
  | invoiced | invoicedReturned =>
      rcases List.map_eq_singleton_iff.mp statuses with ⟨invoice, only, isIssued⟩
      have total := totals invoice (only ▸ List.mem_singleton_self invoice)
      rw [only]
      simp [isIssued, total]
  | paid | paidReturned =>
      rcases List.map_eq_singleton_iff.mp statuses with ⟨invoice, only, isPaid⟩
      rw [only]
      simp [isPaid]

section Order

variable {order : OrderNumber} {system : SagaSystem} {saga : OrderSaga} {terms : OrderProps}
  {line : CreditRow} (represents : Represents order system saga)
  (owesOnly : OwesOnly order terms system.orders.db)
  (ofOrder : terms.orderReference = order) (carriesOut : CarriesOut order terms system)
include represents ofOrder carriesOut

/-- An order ties up nothing on the line of another retailer or company. -/
theorem Represents.nothing_elsewhere (lineMem : line ∈ system.billing.db.credits)
    (elsewhere : ¬ (terms.retailerCode = line.retailerCode ∧
      terms.companyCode = line.companyCode)) :
    system.billing.db.itemsOf line.id order = [] ∧
      (unpaidOf system.billing.db line).filter (·.orderReference = order) = [] := by
  subst ofOrder
  have accounted := carriesOut.agreed.accounted
  constructor
  · by_contra something
    have found := BillingDb.findCredit_of_itemsOf accounted.sound accounted.onLine lineMem
      something
    rcases BillingDb.findCredit_eq_some found with ⟨_, retailer, company⟩
    exact elsewhere ⟨retailer.symm, company.symm⟩
  · apply List.filter_eq_nil_iff.mpr
    intro invoice invoiceMem isOrder
    rcases List.mem_filter.mp invoiceMem with ⟨stored, named⟩
    have codes := accounted.invoicedTo invoice (List.mem_filter.mpr ⟨stored, isOrder⟩)
    have ofLine := of_decide_eq_true named
    exact elsewhere ⟨codes.1.symm.trans ofLine.2.1, codes.2.symm.trans ofLine.2.2⟩

include owesOnly in
/-- On its own line an order ties up what its phase says. -/
theorem Represents.books_of_order (totalled : Totalled terms)
    (found : system.billing.db.findCredit terms.retailerCode terms.companyCode = some line) :
    (orderExposure (system.billing.db.ledgerOf line) order).openExposure =
        (((unpaidOf system.billing.db line).filter (·.orderReference = order)).map
          InvoiceRow.totalAmount).sum ∧
      (orderExposure (system.billing.db.ledgerOf line) order).activeHold =
        if saga.credit = .held then terms.totalAmount.amount else 0 := by
  have inPhase := represents.creditInPhase owesOnly ofOrder carriesOut
  subst ofOrder
  have accounted := carriesOut.agreed.accounted
  rcases BillingDb.findCredit_eq_some found with ⟨_, retailer, company⟩
  have onLine : system.billing.db.itemsOf line.id terms.orderReference =
      system.billing.db.itemsOfOrder terms.orderReference :=
    BillingDb.itemsOf_eq accounted.onLine found
  have named : system.billing.db.InvoicedTo terms.orderReference line.retailerCode
      line.companyCode := by
    rw [retailer, company]
    exact accounted.invoicedTo
  have totals : ∀ invoice ∈ system.billing.db.invoicesOf terms.orderReference,
      invoice.totalAmount = terms.totalAmount.amount := by
    intro invoice invoiceMem
    rcases List.mem_filter.mp invoiceMem with ⟨stored, isOrder⟩
    exact (carriesOut.agreed.invoices invoice stored (of_decide_eq_true isOrder)).1
  have nonneg := totalled.steps.2.2.2
  have exposed : exposureOfRows (system.billing.db.itemsOfOrder terms.orderReference) =
      OrderCredit.exposureOf terms.totalAmount.amount saga.credit := inPhase.exposure_eq
  have held : activeHoldOfRows (system.billing.db.itemsOfOrder terms.orderReference) =
      if saga.credit = .held then
        terms.totalAmount.amount - min 0 terms.totalAmount.amount
      else 0 := inPhase.activeHold_eq
  have kept : saga.credit ≠ .invoicedReturned := by
    intro returned
    have emissions := represents.coherent.emissions
    have issued := emissions.issued.mpr (Or.inr (Or.inl returned))
    have despatched : saga.emitted .orderDespatched :=
      Or.inr (represents.coherent.commands.invoiceIssue
        (represents.coherent.commands.issued issued))
    apply represents.coherent.not_returned_of_despatched despatched
    exact emissions.returned.mpr (Or.inr (Or.inl returned))
  rw [openExposure_ledgerOf, activeHold_ledgerOf, onLine, exposed, held,
    unpaid_of_phase inPhase named totals, Int.min_eq_left nonneg]
  cases phase : saga.credit with
  | invoicedReturned => exact absurd phase kept
  | unheld | held | invoiced | returned | paid | paidReturned =>
      simp [OrderCredit.exposureOf]

end Order

/-- An order whose phase is a return has been told of it. -/
theorem holdReturned_of_phase {system : SagaSystem} {order : OrderNumber} {amount : Int}
    (inPhase : (system.billing.db.orderCredit order).InPhase amount .returned) :
    system.HoldReturned order := by
  have listed : CreditMark.released .orderCancelled ∈
      (system.billing.db.orderCredit order).facts.filterMap markOf? := by
    rw [inPhase.marks_eq]
    simp [OrderCredit.tracesOf]
  rcases List.mem_filterMap.mp listed with ⟨fact, factMem, isMark⟩
  rcases List.mem_filter.mp factMem with ⟨told, ofOrder⟩
  cases fact with
  | creditReleased payload =>
      simp only [markOf?, Option.some.injEq, CreditMark.released.injEq] at isMark
      exact ⟨payload, told, of_decide_eq_true ofOrder, isMark⟩
  | creditApproved | invoiceIssued | paymentReceived => simp [markOf?] at isMark
  | _ => cases isMark

/-- An order is set aside on its line while its hold awaits an invoice. -/
theorem Represents.setAside_iff {order : OrderNumber} {system : SagaSystem}
    {saga : OrderSaga} {row : OrderProps} (line : CreditRow)
    (represents : Represents order system saga)
    (keeps : KeepsTerms order (termsOf row) system.orders)
    (carriesOut : CarriesOut order (termsOf row) system)
    (stored : system.orders.db.orders order = some row) :
    SetAside system line row ↔ (row.retailerCode = line.retailerCode ∧
      row.companyCode = line.companyCode) ∧ saga.credit = .held := by
  have ofOrder : row.orderReference = order := keeps.ofOrder
  have inPhase := represents.creditInPhase keeps.owesOnly keeps.ofOrder carriesOut
  subst ofOrder
  constructor
  · intro setAside
    refine ⟨setAside.ofLine, ?_⟩
    rcases setAside.held with ⟨item, itemMem, _⟩
    have approved : saga.credit ≠ .unheld :=
      approved_of_items inPhase (List.ne_nil_of_mem itemMem)
    have statuses := inPhase.invoices_eq
    have none : (system.billing.db.orderCredit row.orderReference).invoices = [] :=
      setAside.uninvoiced
    change List.map InvoiceRow.status
      (system.billing.db.orderCredit row.orderReference).invoices = _ at statuses
    rw [none] at statuses
    cases phase : saga.credit with
    | held => rfl
    | unheld => exact absurd phase approved
    | returned =>
        rw [phase] at inPhase
        exact absurd (holdReturned_of_phase inPhase) setAside.notReturned
    | invoiced | invoicedReturned | paid | paidReturned =>
        rw [phase] at statuses
        simp [OrderCredit.tracesOf] at statuses
  · rintro ⟨ofLine, isHeld⟩
    have statuses := inPhase.invoices_eq
    rw [isHeld] at statuses
    have heldInFull : HeldInFull (termsOf row) system.billing.db :=
      represents.heldInFull keeps.owesOnly keeps.ofOrder carriesOut (by simp [isHeld])
    refine ⟨stored, ofLine, heldInFull, ?_, List.map_eq_nil_iff.mp statuses⟩
    rintro ⟨payload, payloadMem, ofOrder, isReason⟩
    have returned : saga.emitted (.creditReleased .orderCancelled) :=
      (represents.emitted_iff _).mpr
        ⟨_, payloadMem, ofOrder, by simp [sagaFact?, isReason]⟩
    simpa [isHeld] using represents.coherent.emissions.returned.mp returned

/-! ## What a line ties up -/

open Classical in
/-- The row of an order that is set aside on the line. -/
noncomputable def setAsideOf (system : SagaSystem) (line : CreditRow)
    (order : OrderNumber) : Option OrderProps :=
  (system.orders.db.orders order).filter fun row => SetAside system line row

theorem setAsideOf_eq_some {system : SagaSystem} {line : CreditRow} {order : OrderNumber}
    {row : OrderProps} : setAsideOf system line order = some row ↔
      system.orders.db.orders order = some row ∧ SetAside system line row := by
  simp [setAsideOf, Option.filter_eq_some_iff]

theorem setAsideOf_eq_none {system : SagaSystem} {line : CreditRow} {order : OrderNumber}
    {row : OrderProps} (stored : system.orders.db.orders order = some row)
    (notAside : ¬ SetAside system line row) : setAsideOf system line order = none := by
  simp [setAsideOf, stored, notAside]

section Line

variable {stock : StockCatalogue} {credits : CreditCatalogue} {system : SagaSystem}
  (reached : Reachable SagaSystem.step unguarded (SagaSystem.initial stock credits) system)
  {line : CreditRow} (lineMem : line ∈ system.billing.db.credits)
include reached lineMem

/-- Every order ties up its unpaid invoices on a line, and its total where it is
set aside there. -/
theorem books_of_order (order : OrderNumber) :
    (orderExposure (system.billing.db.ledgerOf line) order).openExposure =
        (((unpaidOf system.billing.db line).filter (·.orderReference = order)).map
          InvoiceRow.totalAmount).sum ∧
      (orderExposure (system.billing.db.ledgerOf line) order).activeHold =
        ((setAsideOf system line order).map (·.totalAmount.amount)).getD 0 := by
  have nothing : system.billing.db.itemsOf line.id order = [] →
      (orderExposure (system.billing.db.ledgerOf line) order).openExposure = 0 ∧
        (orderExposure (system.billing.db.ledgerOf line) order).activeHold = 0 := by
    intro none
    rw [openExposure_ledgerOf, activeHold_ledgerOf, none]
    exact ⟨rfl, rfl⟩
  cases stored : system.orders.db.orders order with
  | none =>
      rcases exists_represented order reached with ⟨saga, represents⟩
      have untouched := represents.untouched stored
      have noItems : system.billing.db.itemsOf line.id order = [] := by
        apply List.filter_eq_nil_iff.mpr
        intro item itemMem ofLine
        apply List.filter_eq_nil_iff.mp untouched.items item itemMem
        exact decide_eq_true (of_decide_eq_true ofLine).2
      have noInvoices : (unpaidOf system.billing.db line).filter
          (·.orderReference = order) = [] := by
        apply List.filter_eq_nil_iff.mpr
        intro invoice invoiceMem
        exact List.filter_eq_nil_iff.mp untouched.invoices invoice
          (List.mem_filter.mp invoiceMem).1
      rcases nothing noItems with ⟨openExposure, activeHold⟩
      rw [openExposure, activeHold, noInvoices, setAsideOf, stored]
      exact ⟨rfl, rfl⟩
  | some row =>
      rcases exists_carriedOut reached stored with ⟨saga, represents, keeps, carriesOut⟩
      have setAside := represents.setAside_iff line keeps carriesOut stored
      by_cases ofLine : row.retailerCode = line.retailerCode ∧
          row.companyCode = line.companyCode
      · have keys : (system.billing.db.credits.map fun row =>
            (row.retailerCode, row.companyCode)).Nodup := by
          rw [BillingDb.credits_of_reached (ledger_of_reachable reached).2]
          exact credits.keys
        have found : system.billing.db.findCredit (termsOf row).retailerCode
            (termsOf row).companyCode = some line := by
          change system.billing.db.findCredit row.retailerCode row.companyCode = some line
          rw [ofLine.1, ofLine.2]
          exact BillingDb.findCredit_of_mem keys lineMem
        rcases represents.books_of_order keeps.owesOnly keeps.ofOrder carriesOut
          keeps.priced.totalled found with ⟨openExposure, activeHold⟩
        refine ⟨openExposure, activeHold.trans ?_⟩
        by_cases isHeld : saga.credit = .held
        · rw [if_pos isHeld, setAsideOf_eq_some.mpr ⟨stored, setAside.mpr ⟨ofLine, isHeld⟩⟩]
          rfl
        · rw [if_neg isHeld,
            setAsideOf_eq_none stored fun aside => isHeld (setAside.mp aside).2]
          rfl
      · rcases represents.nothing_elsewhere keeps.ofOrder carriesOut lineMem ofLine with
          ⟨noItems, noInvoices⟩
        rcases nothing noItems with ⟨openExposure, activeHold⟩
        rw [openExposure, activeHold, noInvoices,
          setAsideOf_eq_none stored fun aside => ofLine (setAside.mp aside).1]
        exact ⟨rfl, rfl⟩

/-- The totals of a line add up what its orders tie up. -/
theorem books_of_line :
    (summariseLedger (system.billing.db.ledgerOf line)).openExposure =
        ((unpaidOf system.billing.db line).map InvoiceRow.totalAmount).sum ∧
      ∃ orders : List OrderProps, (orders.map OrderProps.orderReference).Nodup ∧
        (∀ row, row ∈ orders ↔ SetAside system line row) ∧
          (summariseLedger (system.billing.db.ledgerOf line)).activeHolds =
            (orders.map (·.totalAmount.amount)).sum := by
  let known := (system.billing.db.creditItems.map CreditItemRow.orderReference ++
    system.billing.db.invoices.map InvoiceRow.orderReference).eraseDups
  have distinct : known.Nodup := nodup_eraseDups _
  have listed : ∀ order ∈ (system.billing.db.ledgerOf line).map
      CreditLedgerEntry.orderReference, order ∈ known := by
    intro order orderMem
    rcases List.mem_map.mp orderMem with ⟨entry, entryMem, rfl⟩
    rcases List.mem_map.mp entryMem with ⟨item, itemMem, rfl⟩
    apply List.mem_eraseDups.mpr
    apply List.mem_append_left
    exact List.mem_map_of_mem (List.mem_filter.mp itemMem).1
  have overKnown : ∀ field : OrderExposure → Int,
      (∀ order ∉ (system.billing.db.ledgerOf line).map CreditLedgerEntry.orderReference,
        field (orderExposure (system.billing.db.ledgerOf line) order) = 0) →
      ((summariseLedger (system.billing.db.ledgerOf line)).byOrder.map field).sum =
        (known.map fun order =>
          field (orderExposure (system.billing.db.ledgerOf line) order)).sum := by
    intro field nothing
    rw [summariseLedger, List.map_map]
    exact sum_eraseDups_map distinct listed nothing
  have books := books_of_order reached lineMem
  have keyed : ∀ order row, setAsideOf system line order = some row →
      row.orderReference = order := by
    intro order row isAside
    rcases setAsideOf_eq_some.mp isAside with ⟨stored, _⟩
    rcases exists_carriedOut reached stored with ⟨_, _, keeps, _⟩
    exact keeps.ofOrder
  constructor
  · rw [sum_map_by_key InvoiceRow.orderReference InvoiceRow.totalAmount distinct]
    · apply (overKnown OrderExposure.openExposure fun order unlisted =>
        (orderExposure_of_not_mem unlisted).2.2).trans
      exact congrArg List.sum (List.map_congr_left fun order _ => (books order).1)
    · intro invoice invoiceMem
      apply List.mem_eraseDups.mpr
      apply List.mem_append_right
      exact List.mem_map_of_mem (List.mem_filter.mp invoiceMem).1
  · refine ⟨known.filterMap (setAsideOf system line), ?_, ?_, ?_⟩
    · rw [List.map_filterMap]
      apply distinct.filterMap
      intro first second reference ofFirst ofSecond
      rcases Option.map_eq_some_iff.mp ofFirst with ⟨row, isAside, rfl⟩
      rcases Option.map_eq_some_iff.mp ofSecond with ⟨other, otherAside, same⟩
      rw [← keyed first row isAside, ← same, keyed second other otherAside]
    · intro row
      constructor
      · intro rowMem
        rcases List.mem_filterMap.mp rowMem with ⟨order, _, isAside⟩
        exact (setAsideOf_eq_some.mp isAside).2
      · intro aside
        apply List.mem_filterMap.mpr
        rcases aside.held with ⟨item, itemMem, _⟩
        rcases List.mem_filter.mp itemMem with ⟨stored, ofOrder⟩
        refine ⟨row.orderReference, ?_, setAsideOf_eq_some.mpr ⟨aside.stored, aside⟩⟩
        apply List.mem_eraseDups.mpr
        apply List.mem_append_left
        rw [← of_decide_eq_true ofOrder]
        exact List.mem_map_of_mem stored
    · rw [sum_map_filterMap]
      apply (overKnown OrderExposure.activeHold fun order unlisted =>
        (orderExposure_of_not_mem unlisted).2.1).trans
      exact congrArg List.sum (List.map_congr_left fun order _ => (books order).2)

end Line

/-- A page is answered once each of its lines is viewed. -/
theorem list_of_views {db : BillingDb} {session : ReadSession} {query : CreditListRequest}
    {Agrees : CreditRow → Billing.CreditView → Prop}
    (viewed : ∀ line ∈ db.pageOf session query, ∃ view,
      session.creditView (session.arranged (db.groupedRows
        ((db.pageOf session query).map CreditRow.id))) line = .ok view ∧
          Agrees line view) :
    ∃ reply, db.list session query = .ok reply ∧
      List.Forall₂ Agrees (db.pageOf session query) reply.items := by
  rcases exists_mapM_eq_ok viewed with ⟨views, collected, agree⟩
  simp only [BillingDb.list]
  by_cases empty : (db.pageOf session query).isEmpty
  · rw [if_pos empty, List.isEmpty_iff.mp empty]
    exact ⟨_, rfl, .nil⟩
  · rw [if_neg empty, collected]
    exact ⟨_, rfl, agree⟩

/-- What the credit list says of a line is what the line's retailer owes its
company: for invoices that are not paid, and for orders that are not invoiced. -/
structure Balances (system : SagaSystem) (line : CreditRow) (view : Billing.CreditView) :
    Prop where
  ofLine : view.creditCode = line.code ∧ view.retailerCode = line.retailerCode ∧
    view.companyCode = line.companyCode ∧ view.currency = line.currencyCode ∧
      view.creditLimit = line.creditLimit
  openExposure : view.openExposure =
    ((unpaidOf system.billing.db line).map InvoiceRow.totalAmount).sum
  activeHolds : ∃ orders : List OrderProps, (orders.map OrderProps.orderReference).Nodup ∧
    (∀ row, row ∈ orders ↔ SetAside system line row) ∧
      view.activeHolds = (orders.map (·.totalAmount.amount)).sum
  availableCredit : view.availableCredit =
    line.creditLimit - view.activeHolds - view.openExposure
  notOverdrawn : 0 ≤ view.availableCredit

/-- Whatever the services interleave, deliver again or cancel, every page of the
credit list is answered, and its lines balance. -/
theorem credit_list_balances {stock : StockCatalogue} {credits : CreditCatalogue}
    {system : SagaSystem}
    (reached : Reachable SagaSystem.step unguarded (SagaSystem.initial stock credits) system)
    (session : ReadSession) (query : CreditListRequest) :
    ∃ reply, system.billing.db.list session query = .ok reply ∧
      List.Forall₂ (Balances system) (system.billing.db.pageOf session query)
        reply.items := by
  rcases ledger_of_reachable reached with ⟨_, ledger⟩
  have keys : (system.billing.db.credits.map fun row =>
      (row.retailerCode, row.companyCode)).Nodup := by
    rw [BillingDb.credits_of_reached ledger]
    exact credits.keys
  apply list_of_views
  intro line onPage
  have sorted := List.mem_of_mem_drop (List.mem_of_mem_take onPage)
  have lineMem := (List.mem_filter.mp ((List.mergeSort_perm _ _).mem_iff.mp sorted)).1
  rcases BillingDb.creditView_agrees (BillingDb.bounded_of_reached ledger) keys session
    lineMem (List.mem_map_of_mem onPage) with ⟨view, isView, agrees⟩
  rcases books_of_line reached lineMem with
    ⟨openExposure, orders, distinct, isAside, activeHolds⟩
  refine ⟨view, isView, agrees.ofLine, ?_, ⟨orders, distinct, isAside, ?_⟩, ?_,
    agrees.nonneg.2.2⟩
  · rw [agrees.openExposure, openExposure]
  · rw [agrees.activeHolds, activeHolds]
  · have split := agrees.split
    rw [agrees.ofLine.2.2.2.2] at split
    omega

/-- An order that is invoiced beside one that is held. -/
def invoicedBesideHeld : List (SagaSystem → SagaAction) :=
  paidInTheEnd.take 21 ++
    [ fun _ => .orders (.place 1 { singleLineOrder with orderReference := ⟨2⟩ }
        (singleLineForm 1)),
      SagaSystem.deliver .orders 2,
      fun _ => .orders (.commit 0),
      SagaSystem.dispatch ⟨2⟩ .stockReserve,
      fun _ => .fulfillment (.run 0),
      SagaSystem.deliver .fulfillment 2,
      fun _ => .orders (.commit 0),
      SagaSystem.dispatch ⟨2⟩ .creditHold,
      fun _ => .billing (.run 0 false) ]

theorem books_of_invoiced_and_held :
    ∃ (system : SagaSystem) (reply : CreditListReply),
      Reachable SagaSystem.step unguarded
        (SagaSystem.initial FulfillmentSystem.twoProducts tenThousandLimit) system ∧
      system.billing.db.list BillingSystem.plainSession ⟨none, none, none, none⟩ =
        .ok reply ∧
      reply.items.map (fun view =>
        (view.activeHolds, view.openExposure, view.availableCredit)) =
          [(3000, 3000, 4000)] ∧
      List.Forall₂ (Balances system)
        (system.billing.db.pageOf BillingSystem.plainSession ⟨none, none, none, none⟩)
        reply.items := by
  have ran : (execute (choosing SagaSystem.step)
      (fun state choose => decide (unguarded state (choose state)))
      (SagaSystem.initial FulfillmentSystem.twoProducts tenThousandLimit)
      invoicedBesideHeld).map (fun system =>
        ((system.billing.db.list BillingSystem.plainSession
          ⟨none, none, none, none⟩).toOption.map CreditListReply.items).map fun views =>
            views.map fun view =>
              (view.activeHolds, view.openExposure, view.availableCredit)) =
      some (some [(3000, 3000, 4000)]) := by
    decide +kernel
  rcases Option.map_eq_some_iff.mp ran with ⟨system, executed, shown⟩
  have reached := reachable_of_choices executed
  rcases credit_list_balances reached BillingSystem.plainSession
    ⟨none, none, none, none⟩ with ⟨reply, listed, balances⟩
  rw [listed] at shown
  exact ⟨system, reply, reached, listed, Option.some.inj shown, balances⟩

end OrderToCash.Saga
