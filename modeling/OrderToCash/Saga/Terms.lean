import OrderToCash.Orders.CommandRows
import OrderToCash.Saga.Represents
import OrderToCash.Saga.ZeroTotal

/-!
# The terms of an order

What an order says besides its status, its reason and its notes is set when it
is placed.  No transaction changes it, whatever it has read, so every command
that is stored for the order asks for what the order says.
-/

namespace OrderToCash.Saga

open OrderToCash.Billing
open OrderToCash.Checked
open OrderToCash.Contracts
open OrderToCash.Fulfillment
open OrderToCash.Kernel
open OrderToCash.Orders
open OrderToCash.Table
open OrderToCash.Transition

/-- The order without what changes of it. -/
def termsOf (props : OrderProps) : OrderProps :=
  { props with status := .placed, cancellationReason := none, notes := none }

/-- The totals are those of the lines, which have identifiers of their own. -/
structure Priced (props : OrderProps) : Prop where
  totalled : Totalled props
  ids : (props.lines.map OrderLine.id).Nodup

theorem priced_termsOf {props : OrderProps} :
    Priced (termsOf props) ↔ Priced props := by
  constructor
  · rintro ⟨⟨lines, computed, currency, ofCurrency⟩, ids⟩
    exact ⟨⟨lines, computed, currency, ofCurrency⟩, ids⟩
  · rintro ⟨⟨lines, computed, currency, ofCurrency⟩, ids⟩
    exact ⟨⟨lines, computed, currency, ofCurrency⟩, ids⟩

theorem priced_of_place {firstLineId : Nat} {input : PlaceOrderInput} {created : Order}
    (placed : Order.place (fun index => ⟨firstLineId + index⟩) input = .ok created) :
    Priced created.props where
  totalled := totalled_of_place placed
  ids := by
    rcases Order.place_eq_ok placed with ⟨_, _, _, _, lines, _⟩
    rw [lines, createLines, List.nodup_iff_injective_getElem]
    intro first second same
    simp only [List.getElem_map, List.getElem_mapIdx, UniqueId.mk.injEq] at same
    exact Fin.ext (by omega)

/-- In whatever form an order is stored, it is priced. -/
theorem Priced.row {props : OrderProps} (priced : Priced props) {form : StoredForm}
    (fits : form.Fits props) : Priced (form.row props) where
  totalled :=
    { lines := by
        intro none
        apply priced.totalled.lines
        rw [← List.nil_perm, ← none]
        exact fits.lines
      computed := fits.computed priced.totalled.computed
      currency := priced.totalled.currency
      ofCurrency := by
        intro line lineMem
        exact priced.totalled.ofCurrency line (fits.lines.mem_iff.mp lineMem) }
  ids := (fits.lines.map OrderLine.id).nodup_iff.mpr priced.ids

/-- The payload asks for what the order says. -/
def Asks (props : OrderProps) : SagaCommandPayload → Prop
  | .stockReserve request =>
      request = ⟨props.orderReference, props.retailerCode, props.companyCode,
        props.lines.map fun line => ⟨line.productCode, line.quantity⟩⟩
  | .stockRelease request => request.orderReference = props.orderReference
  | .despatchCreate request => request = ⟨props.orderReference⟩
  | .creditHold request => request = holdRequestOf props
  | .invoiceIssue request => request = invoiceRequestOf props
  | .creditRelease request => request = releaseRequestOf props

/-- The payloads of the step table ask for what the order says. -/
theorem asks_of_build {kind : SagaCommandKind} {props : OrderProps}
    {envelope : Envelope} {payload : SagaCommandPayload}
    (built : buildSagaCommandPayload kind props envelope = .ok payload) :
    Asks (termsOf props) payload := by
  cases kind with
  | stockReserve =>
      simp only [buildSagaCommandPayload, nonEmptyReserveLines, bind_eq_ok_iff,
        ite_error_eq_ok_iff, Except.ok.injEq] at built
      rcases built with ⟨lines, ⟨_, rfl⟩, rfl⟩
      rfl
  | stockRelease =>
      simp only [buildSagaCommandPayload, bind_eq_ok_iff, Except.ok.injEq] at built
      rcases built with ⟨reason, _, rfl⟩
      rfl
  | invoiceIssue =>
      simp only [buildSagaCommandPayload, nonEmptyInvoiceLines, bind_eq_ok_iff,
        ite_error_eq_ok_iff, Except.ok.injEq] at built
      rcases built with ⟨lines, ⟨_, rfl⟩, rfl⟩
      rfl
  | despatchCreate | creditHold | creditRelease =>
      cases built
      rfl

/-! ## What a transaction writes -/

/-- The write keeps the terms of the order, and asks for nothing else. -/
def Upholds (order : OrderNumber) (terms : OrderProps) : OrdersWrite → Prop
  | .save saved => saved.props.orderReference = order → termsOf saved.props = terms
  | .enqueue other _ row => other = order → Asks terms row.payload
  | .recordIgnored _ => True

/-- An order is loaded as it is stored, if its totals are those of its lines. -/
theorem props_of_findById {db : OrdersDb} {order : OrderNumber} {loaded : Order}
    {row : OrderProps} (stored : db.orders order = some row) (priced : Priced row)
    (found : db.findById order = .ok (some loaded)) : loaded.props = row := by
  rcases findById_eq_ok_some found with ⟨other, isStored, rebuilt⟩
  cases Option.some.inj (stored.symm.trans isStored)
  rcases Order.reconstitute_eq_ok rebuilt with ⟨totals, computed, rfl⟩
  rw [priced.totalled.computed] at computed
  cases computed
  rfl

section Decided

variable {order : OrderNumber} {terms : OrderProps} {opened : OpenTransaction}
  (priced : Priced terms)
  (read : opened.work.order = order →
    ∀ row ∈ opened.snapshot.orders order, termsOf row = terms)
  (keyed : opened.snapshot.Keyed)
include priced read keyed

/-- What a transaction loads of the order has its terms. -/
theorem terms_of_loaded {loaded : Order}
    (found : opened.snapshot.findById opened.work.order = .ok (some loaded))
    (ofOrder : loaded.props.orderReference = order) : termsOf loaded.props = terms := by
  rcases findById_eq_ok_some found with ⟨row, stored, rebuilt⟩
  have reference := (reconstitute_status rebuilt).1
  have isWork : opened.work.order = order := by
    rw [← keyed _ _ stored, ← reference, ofOrder]
  have same := read isWork row (isWork ▸ stored)
  have pricedRow : Priced row := priced_termsOf.mp (same ▸ priced)
  rw [props_of_findById stored pricedRow found, same]

/-- Every transaction upholds the terms of the order it has read. -/
theorem upholds_of_decides {writes : List OrdersWrite} (decides : opened.Decides writes) :
    ∀ write ∈ writes, Upholds order terms write := by
  have loads := @terms_of_loaded order terms opened priced read keyed
  unfold OpenTransaction.Decides at decides
  cases work : opened.work with
  | handleFact envelope sourceTopic =>
      rw [work] at decides
      rw [work] at loads
      rcases decides with ⟨factWork, handled, rfl⟩
      have written := handleFact_writes handled
      generalize factWork.writes = writes at written ⊢
      cases written with
      | unknownOrder | preconditionUnmet => simp [Upholds]
      | late loaded payload found isLate built =>
          intro write writeMem
          rw [List.mem_singleton.mp writeMem]
          intro ofOrder
          rw [← loads found ofOrder]
          exact asks_of_build built
      | advance loaded saved precondition apply found onTime step savedProps =>
          intro write writeMem
          rw [List.mem_singleton.mp writeMem]
          intro ofOrder
          rw [savedProps] at ofOrder ⊢
          exact loads found ofOrder
      | advanceOwing loaded saved precondition apply kind payload found onTime step
          savedProps built =>
          have same : saved.props.orderReference = order →
              termsOf saved.props = terms := by
            intro ofOrder
            rw [savedProps] at ofOrder ⊢
            exact loads found ofOrder
          intro write writeMem
          simp only [List.mem_cons, List.not_mem_nil, or_false] at writeMem
          rcases writeMem with rfl | rfl
          · exact same
          · intro ofOrder
            rw [← same ofOrder]
            exact asks_of_build built
      | cancel loaded saved precondition mapped compensationSteps reason found onTime
          step reasonMapped cancelled =>
          intro write writeMem
          rw [List.mem_singleton.mp writeMem]
          intro ofOrder
          rw [(Order.cancel_eq_ok cancelled).2.2.2] at ofOrder ⊢
          exact loads found ofOrder
  | cancelPlaced other =>
      rw [work] at decides
      rw [work] at loads
      rcases decides with ⟨outcome, decided⟩
      rcases cancelPlaced_writes decided with
        ⟨rfl, _⟩ | ⟨loaded, saved, found, cancelled, rfl, _⟩
      · simp
      · intro write writeMem
        rw [List.mem_singleton.mp writeMem]
        intro ofOrder
        rw [(Order.cancel_eq_ok cancelled).2.2.2] at ofOrder ⊢
        exact loads found ofOrder
  | onFirstPark other failure =>
      rw [work] at decides
      rw [work] at loads
      rcases onFirstPark_writes decides with ⟨rfl, _⟩ | ⟨loaded, found, rfl⟩
      · simp
      · intro write writeMem
        rw [List.mem_singleton.mp writeMem]
        have loadedTerms := @loads loaded found
        exact loadedTerms

end Decided

/-- Saving an order by its terms leaves them. -/
theorem termsOf_updateOrderRow {row saved : OrderProps} (priced : Priced row)
    (same : termsOf saved = termsOf row) :
    termsOf (OrdersDb.updateOrderRow row saved) = termsOf row := by
  have lines := congrArg OrderProps.lines same
  change saved.lines = row.lines at lines
  have kept : upsertAll OrderLine.id OrdersDb.mergeOrderLine row.lines saved.lines =
      row.lines := by
    rw [lines]
    apply upsertAll_self
    · intro existing line sameId
      rfl
    · intro line
      rfl
    · exact priced.ids
  simp only [termsOf, OrdersDb.updateOrderRow, kept]

/-- Writes that uphold the terms leave them. -/
theorem terms_of_writes {order : OrderNumber} {terms : OrderProps}
    (priced : Priced terms) {db : OrdersDb} {writes : List OrdersWrite}
    (upholds : ∀ write ∈ writes, Upholds order terms write)
    (before : ∀ row ∈ db.orders order, termsOf row = terms) :
    ∀ row ∈ (applyWrites db writes).orders order, termsOf row = terms := by
  induction writes generalizing db with
  | nil => exact before
  | cons write rest inductionHypothesis =>
      apply inductionHypothesis
      · exact fun other otherMem => upholds other (List.mem_cons_of_mem _ otherMem)
      · have here := upholds write List.mem_cons_self
        cases write with
        | enqueue other kind row =>
            simpa only [OrdersWrite.apply, OrdersDb.enqueue_orders] using before
        | recordIgnored ignored => exact before
        | save saved =>
            intro row stored
            simp only [OrdersWrite.apply, OrdersDb.save_orders, Option.mem_def] at stored
            split at stored
            · rename_i ofOrder
              rcases Option.map_eq_some_iff.mp stored with ⟨old, isOld, rfl⟩
              have same := before old isOld
              have pricedOld : Priced old := priced_termsOf.mp (same ▸ priced)
              rw [termsOf_updateOrderRow pricedOld, same]
              rw [here ofOrder.symm, same]
            · exact before row stored

end OrderToCash.Saga
