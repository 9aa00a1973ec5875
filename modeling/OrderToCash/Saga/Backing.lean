import OrderToCash.Fulfillment.ReservedUnits
import OrderToCash.Saga.KeptTerms
import OrderToCash.Saga.MoneyAgreement
import OrderToCash.Saga.NeededFacts
import OrderToCash.Saga.Shipment

/-!
# What a status is backed by

Orders learns what the other services did from their facts only.  Still, what
the status of an order says is so: the units that were ordered are reserved and
shipped, and the total of the order is held, invoiced, paid and released, each
once and in full, whatever is delivered again, interleaved or cancelled.
-/

namespace OrderToCash.Saga

open OrderToCash.Billing
open OrderToCash.Contracts
open OrderToCash.Fulfillment
open OrderToCash.Kernel
open OrderToCash.Orders
open OrderToCash.Transition

/-! ## What an order asks for -/

/-- The units of a product an order is for. -/
def orderedUnits (props : OrderProps) (productCode : String) : Int :=
  ((props.lines.filter (·.productCode = productCode)).map fun line =>
    (line.quantity.value : Int)).sum

/-- The lines of the reservation Orders owes for an order. -/
def reserveLinesOf (props : OrderProps) : List StockReserveLine :=
  props.lines.map fun line => ⟨line.productCode, line.quantity⟩

theorem requestedTotal_reserveLinesOf (props : OrderProps) (productCode : String) :
    requestedTotal (reserveLinesOf props) productCode =
      orderedUnits props productCode := by
  rw [requestedTotal, orderedUnits, reserveLinesOf, List.filter_map, List.map_map]
  rfl

/-! ## Effects in full -/

/-- Every unit of the order is set aside for it. -/
def ReservedInFull (props : OrderProps) (db : FulfillmentDb) : Prop :=
  db.reservationsOf props.orderReference ≠ [] ∧ ∀ productCode,
    (db.orderStock props.orderReference).reservationUnits productCode =
      orderedUnits props productCode

/-- Every unit of the order left with its one despatch advice. -/
def ShippedInFull (props : OrderProps) (db : FulfillmentDb) : Prop :=
  ∃ despatch, (db.orderStock props.orderReference).despatches = [despatch] ∧
    ∀ productCode,
      OrderStock.despatchedUnits despatch productCode = orderedUnits props productCode

/-- The total of the order is held on the line of its retailer at its company. -/
def HeldInFull (props : OrderProps) (db : BillingDb) : Prop :=
  ∃ row ∈ db.itemsOfOrder props.orderReference, row.type = .hold ∧
    row.amount = props.totalAmount.amount ∧
      ∃ line, db.findCredit props.retailerCode props.companyCode = some line ∧
        row.creditId = line.id ∧ line.currencyCode = props.totalAmount.currency

/-- The order has one invoice, over its total. -/
def InvoicedInFull (props : OrderProps) (db : BillingDb) : Prop :=
  ∃ invoice, db.invoicesOf props.orderReference = [invoice] ∧
    (⟨invoice.totalAmount, invoice.currencyCode⟩ : Money) = props.totalAmount

/-- One payment has settled the order's invoice and released its hold. -/
def SettledInFull (props : OrderProps) (db : BillingDb) : Prop :=
  ∃ invoice payment, db.invoicesOf props.orderReference = [invoice] ∧
    invoice.status = .paid ∧ db.paymentsOf props.orderReference = [payment] ∧
      payment.invoiceId = invoice.id ∧
        (⟨payment.amount, payment.currencyCode⟩ : Money) = props.totalAmount ∧
          (db.itemsOfOrder props.orderReference).map (fun row => (row.type, row.amount)) =
            [(.hold, props.totalAmount.amount), (.consume, props.totalAmount.amount),
              (.release, props.totalAmount.amount)]

/-! ## What the services have of an order -/

variable {order : OrderNumber} {system : SagaSystem} {saga : OrderSaga}

/-- Whatever is owed for the order is on the terms. -/
def OwesOnly (order : OrderNumber) (terms : OrderProps) (db : OrdersDb) : Prop :=
  ∀ payload : SagaCommandPayload, payload.order = order → db.Owes payload →
    Asks terms payload

theorem KeepsTerms.owesOnly {terms : OrderProps} {orders : OrdersSystem}
    (keeps : KeepsTerms order terms orders) : OwesOnly order terms orders.db :=
  fun _ ofOrder owes => keeps.asks ofOrder owes

theorem OwesOnly.of_stay {terms : OrderProps} {db db' : OrdersDb}
    (owesOnly : OwesOnly order terms db') (stay : db.CommandsStay db') :
    OwesOnly order terms db :=
  fun payload ofOrder owes => owesOnly payload ofOrder (owes.of_stay stay)

/-- What Billing has of the order is of its total, and what Fulfillment has
reserved for it are the units it is for. -/
structure CarriesOut (order : OrderNumber) (terms : OrderProps) (system : SagaSystem) :
    Prop where
  agreed : Agreed terms system.billing
  inFull : system.fulfillment.db.ReservesInFull order (reserveLinesOf terms)

/-- A request of the order to Billing is for the terms that are owed. -/
theorem agreed_of_enabled {terms : OrderProps} (totalled : Totalled terms)
    (ofOrder : terms.orderReference = order)
    (owesOnly : OwesOnly order terms system.orders.db)
    (agreed : Agreed terms system.billing) {action : BillingAction}
    {billing : BillingSystem} (enabled : system.Enabled (.billing action))
    (stepped : BillingSystem.step system.billing action = some billing) :
    Agreed terms billing := by
  apply agreed_step totalled agreed _ _ stepped
  · intro request received sameOrder
    cases action with
    | receive request' =>
        cases request' with
        | creditHold hold =>
            cases received
            exact owesOnly (.creditHold request) (sameOrder.trans ofOrder) (enabled _ rfl)
        | creditRelease | invoiceIssue | paymentRegister => cases received
    | locate | run | abort => cases received
  · intro request received sameOrder
    cases action with
    | receive request' =>
        cases request' with
        | invoiceIssue invoice =>
            cases received
            exact owesOnly (.invoiceIssue request) (sameOrder.trans ofOrder) (enabled _ rfl)
        | creditRelease | creditHold | paymentRegister => cases received
    | locate | run | abort => cases received

/-- In every reachable state the services carry out what is owed, on its terms. -/
theorem carriesOut_of_reachable {guard : Guard SagaSystem SagaAction}
    {stock : StockCatalogue} {credits : CreditCatalogue} {terms : OrderProps}
    (totalled : Totalled terms) (ofOrder : terms.orderReference = order)
    (reached : Reachable SagaSystem.step guard (SagaSystem.initial stock credits) system)
    (owesOnly : OwesOnly order terms system.orders.db) :
    CarriesOut order terms system := by
  induction reached with
  | refl =>
      exact ⟨agreed_initial credits terms,
        FulfillmentSystem.reservesInFull_initial stock order (reserveLinesOf terms)⟩
  | tail path admitted stepped inductionHypothesis =>
      rename_i before after action
      rcases SagaSystem.step_eq_some.mp stepped with ⟨enabled, acted⟩
      cases action with
      | orders action =>
          simp only [SagaSystem.act, Option.map_eq_some_iff] at acted
          rcases acted with ⟨orders, ordersStepped, rfl⟩
          have stay := OrdersSystem.commands_stay ordersStepped
          rcases inductionHypothesis (owesOnly.of_stay stay) with ⟨agreed, inFull⟩
          exact ⟨agreed, inFull⟩
      | fulfillment action =>
          simp only [SagaSystem.act, Option.map_eq_some_iff] at acted
          rcases acted with ⟨fulfillment, serviceStepped, rfl⟩
          rcases inductionHypothesis owesOnly with ⟨agreed, inFull⟩
          rcases exists_represented order path with ⟨saga, represents⟩
          have arbitrated := represents.stock.arbitrated terms.companyCode
            (reserveLinesOf terms) fun request requestOf owes => by
              have asks : request = ⟨_, _, _, _⟩ :=
                owesOnly (.stockReserve request) requestOf owes
              rw [asks]
              exact ⟨rfl, rfl⟩
          exact ⟨agreed, FulfillmentSystem.reservesInFull_step arbitrated inFull
            serviceStepped⟩
      | billing action =>
          simp only [SagaSystem.act, Option.map_eq_some_iff] at acted
          rcases acted with ⟨billing, serviceStepped, rfl⟩
          rcases inductionHypothesis owesOnly with ⟨agreed, inFull⟩
          have agreed' := @agreed_of_enabled order before terms totalled ofOrder owesOnly
            agreed action billing enabled serviceStepped
          exact ⟨agreed', inFull⟩

/-! ## What the phases stand for -/

section Phases

variable {terms : OrderProps} (represents : Represents order system saga)
  (owesOnly : OwesOnly order terms system.orders.db)
  (ofOrder : terms.orderReference = order) (carriesOut : CarriesOut order terms system)
include represents ofOrder carriesOut

/-- An order with a reservation has every unit set aside. -/
theorem Represents.reservedInFull (some : saga.stock ≠ none) :
    ReservedInFull terms system.fulfillment.db := by
  subst ofOrder
  rw [represents.stock.phase] at some
  have existing : system.fulfillment.db.reservationsOf terms.orderReference ≠ [] :=
    fun none => some (OrderStock.phase_eq_none_iff.mpr none)
  refine ⟨existing, fun productCode => ?_⟩
  rw [carriesOut.inFull existing productCode, requestedTotal_reserveLinesOf]

include owesOnly in
/-- An order whose stock is consumed was shipped in full. -/
theorem Represents.shippedInFull (consumed : saga.stock = some .consumed) :
    ShippedInFull terms system.fulfillment.db := by
  have reserved := represents.reservedInFull ofOrder carriesOut (by simp [consumed])
  subst ofOrder
  have arbitrated := represents.stock.arbitrated terms.companyCode
    (reserveLinesOf terms) fun request requestOf owes => by
      have asks : request = ⟨_, _, _, _⟩ :=
        owesOnly (.stockReserve request) requestOf owes
      rw [asks]
      exact ⟨rfl, rfl⟩
  have rows := congrArg OrderStock.Traces.despatchRows arbitrated.consistent.leftBehind
  rw [← represents.stock.phase, consumed] at rows
  rcases List.length_eq_one_iff.mp rows with ⟨despatch, only⟩
  refine ⟨despatch, only, fun productCode => ?_⟩
  have listed : despatch ∈
      (system.fulfillment.db.orderStock terms.orderReference).despatches := by
    rw [only]
    exact List.mem_singleton_self despatch
  rw [arbitrated.consistent.shipped despatch listed productCode, reserved.2 productCode]

include owesOnly in
/-- The order's credit is in the phase the saga has it in, over its total. -/
theorem Represents.creditInPhase :
    (system.billing.db.orderCredit terms.orderReference).InPhase
      terms.totalAmount.amount saga.credit := by
  subst ofOrder
  have asked : ∀ request : CreditHoldRequest,
      request.orderReference = terms.orderReference →
        system.orders.db.Owes (.creditHold request) → request = holdRequestOf terms :=
    fun request => owesOnly (.creditHold request)
  have ofHold : (holdRequestOf terms).orderReference = terms.orderReference := rfl
  exact represents.credit.inPhase ofHold asked

include owesOnly in
/-- An order whose hold was approved is held in full. -/
theorem Represents.heldInFull (approved : saga.credit ≠ .unheld) :
    HeldInFull terms system.billing.db := by
  have inPhase := represents.creditInPhase owesOnly ofOrder carriesOut
  rcases inPhase.hasHold_iff.mpr approved with ⟨row, rowMem, isHold⟩
  have agreed := carriesOut.agreed
  rcases agreed.accounted.onLine row rowMem with ⟨line, found, onLine⟩
  have amount := amount_of_item agreed.accounted row (List.mem_filter.mp rowMem).1
    (of_decide_eq_true (List.mem_filter.mp rowMem).2)
  exact ⟨row, rowMem, isHold, amount, line, found, onLine,
    agreed.currency (List.ne_nil_of_mem rowMem) line found⟩

include owesOnly in
/-- An order whose invoice was issued is invoiced in full. -/
theorem Represents.invoicedInFull (issued : saga.emitted .invoiceIssued) :
    InvoicedInFull terms system.billing.db := by
  have inPhase := represents.creditInPhase owesOnly ofOrder carriesOut
  have one : (system.billing.db.invoicesOf terms.orderReference).length = 1 := by
    have invoices := congrArg List.length inPhase.invoices_eq
    rw [List.length_map] at invoices
    refine invoices.trans ?_
    rcases represents.coherent.emissions.issued.mp issued with phase | phase | phase | phase
    all_goals rw [phase]; rfl
  rcases List.length_eq_one_iff.mp one with ⟨invoice, only⟩
  have listed : invoice ∈ system.billing.db.invoicesOf terms.orderReference := by
    rw [only]
    exact List.mem_singleton_self invoice
  rcases List.mem_filter.mp listed with ⟨invoiceMem, isOrder⟩
  rcases carriesOut.agreed.invoices invoice invoiceMem (of_decide_eq_true isOrder) with
    ⟨amount, currency⟩
  refine ⟨invoice, only, ?_⟩
  rw [amount, currency]

include owesOnly in
/-- An order whose credit is released for its payment is settled in full. -/
theorem Represents.settledInFull (totalled : Totalled terms)
    (paid : saga.credit = .paid) : SettledInFull terms system.billing.db := by
  have inPhase := represents.creditInPhase owesOnly ofOrder carriesOut
  rw [paid] at inPhase
  have agreed := carriesOut.agreed
  have agrees := agreed.billingAgrees totalled (inPhase.positive (by simp) (by simp))
  have leftBehind := inPhase.leftBehind
  simp only [OrderCredit.traces, OrderCredit.tracesOf, CreditTraces.mk.injEq] at leftBehind
  rcases leftBehind with ⟨entries, invoices, payments, _⟩
  rcases List.map_eq_singleton_iff.mp invoices with ⟨invoice, only, isPaid⟩
  rcases List.length_eq_one_iff.mp payments with ⟨payment, onlyPayment⟩
  have only : system.billing.db.invoicesOf terms.orderReference = [invoice] := only
  have onlyPayment : system.billing.db.paymentsOf terms.orderReference = [payment] :=
    onlyPayment
  have listed : payment ∈ system.billing.db.paymentsOf terms.orderReference := by
    rw [onlyPayment]
    exact List.mem_singleton_self payment
  have names : payment.invoiceId = invoice.id := by
    have named := (List.mem_filter.mp listed).2
    rw [only] at named
    simpa [eq_comm] using named
  exact ⟨invoice, payment, only, isPaid, onlyPayment, names, agrees.recorded payment listed,
    entries⟩

end Phases

/-! ## Statuses and effects -/

/-- The status lies past the milestone, on the way to `completed`. -/
def Beyond (status milestone : OrderStatus) : Prop :=
  status ≠ .cancelled ∧ milestone.rank < status.rank

instance (status milestone : OrderStatus) : Decidable (Beyond status milestone) :=
  inferInstanceAs (Decidable (_ ∧ _))

/-- What the status of an order says has been done for it. -/
structure Backed (props : OrderProps) (system : SagaSystem) : Prop where
  reserved : Beyond props.status .placed → ReservedInFull props system.fulfillment.db
  held : Beyond props.status .stockReserved → HeldInFull props system.billing.db
  shipped : Beyond props.status .confirmed → ShippedInFull props system.fulfillment.db ∧
    ¬ system.HoldReturned props.orderReference
  invoiced : Beyond props.status .despatched → InvoicedInFull props system.billing.db
  settled : Beyond props.status .invoiced → SettledInFull props system.billing.db

/-- What has been done for an order rests on what is to come before it. -/
structure EffectsInOrder (props : OrderProps) (system : SagaSystem) : Prop where
  reserved : system.fulfillment.db.reservationsOf props.orderReference ≠ [] →
    ReservedInFull props system.fulfillment.db
  held : system.billing.db.itemsOfOrder props.orderReference ≠ [] →
    ReservedInFull props system.fulfillment.db ∧ HeldInFull props system.billing.db
  shipped : (system.fulfillment.db.orderStock props.orderReference).despatches ≠ [] →
    HeldInFull props system.billing.db ∧ ShippedInFull props system.fulfillment.db ∧
      ¬ system.HoldReturned props.orderReference
  invoiced : system.billing.db.invoicesOf props.orderReference ≠ [] →
    ShippedInFull props system.fulfillment.db ∧ InvoicedInFull props system.billing.db
  paid : system.billing.db.paymentsOf props.orderReference ≠ [] →
    ShippedInFull props system.fulfillment.db ∧ SettledInFull props system.billing.db

/-- A despatched order has not had its hold returned. -/
theorem Represents.not_holdReturned (represents : Represents order system saga)
    (despatched : saga.emitted .orderDespatched) : ¬ system.HoldReturned order := by
  rintro ⟨payload, payloadMem, ofOrder, isReason⟩
  apply represents.coherent.not_returned_of_despatched despatched
  apply (represents.emitted_iff _).mpr
  exact ⟨_, payloadMem, ofOrder, by simp [sagaFact?, isReason]⟩

/-- The payment of a despatched order releases its hold. -/
theorem OrderSaga.Coherent.paid_of_received (coherent : saga.Coherent)
    (despatched : saga.emitted .orderDespatched)
    (received : saga.emitted .paymentReceived) : saga.credit = .paid := by
  rcases coherent.emissions.received.mp received with paid | returned
  · exact paid
  · have isReturned := coherent.emissions.returned.mpr (Or.inr (Or.inr returned))
    exact absurd isReturned (coherent.not_returned_of_despatched despatched)

/-- Every reachable state has a saga of the order, and terms it is carried out
on. -/
theorem exists_carriedOut {stock : StockCatalogue} {credits : CreditCatalogue}
    (reached : Reachable SagaSystem.step unguarded (SagaSystem.initial stock credits)
      system) {row : OrderProps} (stored : system.orders.db.orders order = some row) :
    ∃ saga, Represents order system saga ∧
      KeepsTerms order (termsOf row) system.orders ∧
        CarriesOut order (termsOf row) system := by
  rcases exists_represented order reached with ⟨saga, represents⟩
  have placed : system.orders.db.orders order ≠ none := by
    rw [stored]
    exact Option.some_ne_none row
  rcases exists_terms reached placed with ⟨terms, keeps⟩
  cases keeps.row row stored
  exact ⟨saga, represents, keeps,
    carriesOut_of_reachable keeps.priced.totalled keeps.ofOrder reached keeps.owesOnly⟩

/-- Whatever the services interleave, deliver again or cancel, an order's status
says what they have done for it. -/
theorem status_is_backed {stock : StockCatalogue} {credits : CreditCatalogue}
    (reached : Reachable SagaSystem.step unguarded (SagaSystem.initial stock credits)
      system) {row : OrderProps} (stored : system.orders.db.orders order = some row) :
    Backed row system := by
  rcases exists_carriedOut reached stored with ⟨saga, represents, keeps, carriesOut⟩
  have ofOrder : row.orderReference = order := keeps.ofOrder
  have coherent := represents.coherent
  have owesOnly := keeps.owesOnly
  have isStatus : saga.current.status = some row.status := by
    rw [represents.status_eq, OrdersDb.statusOf, stored]
    rfl
  have standsFor := (coherent.past _ coherent.current).standsFor _ isStatus
  have despatched : Beyond row.status .confirmed → saga.emitted .orderDespatched :=
    fun beyond => Or.inr (standsFor.despatched beyond.1 beyond.2)
  constructor
  · intro beyond
    have reserved := standsFor.reserved beyond.1 beyond.2
    have inFull := represents.reservedInFull keeps.ofOrder carriesOut
      (coherent.emissions.reserved.mp (Or.inr reserved))
    exact inFull
  · intro beyond
    have approved := standsFor.approved beyond.1 beyond.2
    have inFull := represents.heldInFull owesOnly keeps.ofOrder carriesOut
      (coherent.emissions.approved.mp (Or.inr approved))
    exact inFull
  · intro beyond
    have inFull := represents.shippedInFull owesOnly keeps.ofOrder carriesOut
      (coherent.emissions.despatched.mp (despatched beyond))
    rw [ofOrder]
    exact ⟨inFull, represents.not_holdReturned (despatched beyond)⟩
  · intro beyond
    have invoiced := standsFor.invoiced beyond.1 beyond.2
    have inFull := represents.invoicedInFull owesOnly keeps.ofOrder carriesOut
      (Or.inr invoiced)
    exact inFull
  · intro beyond
    have paid := standsFor.paid beyond.1 beyond.2
    have further : Beyond row.status .confirmed :=
      ⟨beyond.1, Nat.lt_trans (by simp [OrderStatus.rank]) beyond.2⟩
    have inFull := represents.settledInFull owesOnly keeps.ofOrder carriesOut
      keeps.priced.totalled (coherent.paid_of_received (despatched further) (Or.inr paid))
    exact inFull

/-- A run in which the order is completed. -/
theorem completed_order_is_backed :
    ∃ system row, Reachable SagaSystem.step unguarded
        (SagaSystem.initial FulfillmentSystem.twoProducts tenThousandLimit) system ∧
      system.orders.db.orders ⟨1⟩ = some row ∧ row.status = .completed ∧
        Backed row system := by
  have ran : (execute (choosing SagaSystem.step)
      (fun state choose => decide (unguarded state (choose state)))
      (SagaSystem.initial FulfillmentSystem.twoProducts tenThousandLimit)
      paidInTheEnd).map (fun system =>
        (system.orders.db.orders ⟨1⟩).map OrderProps.status) =
      some (some .completed) := by
    decide +kernel
  rcases Option.map_eq_some_iff.mp ran with ⟨system, executed, status⟩
  rcases Option.map_eq_some_iff.mp status with ⟨row, stored, completed⟩
  have reached := reachable_of_choices executed
  exact ⟨system, row, reached, stored, completed, status_is_backed reached stored⟩

/-- Nothing has been done for the order. -/
structure Untouched (order : OrderNumber) (system : SagaSystem) : Prop where
  reservations : system.fulfillment.db.reservationsOf order = []
  despatches : (system.fulfillment.db.orderStock order).despatches = []
  items : system.billing.db.itemsOfOrder order = []
  invoices : system.billing.db.invoicesOf order = []
  payments : system.billing.db.paymentsOf order = []

section Rows

variable {credit : OrderCredit} {amount : Int} {phase : CreditPhase}
  (inPhase : credit.InPhase amount phase)
include inPhase

theorem approved_of_items (some : credit.items ≠ []) : phase ≠ .unheld := by
  rintro rfl
  have entries := congrArg CreditTraces.entries inPhase.leftBehind
  exact some (List.map_eq_nil_iff.mp entries)

theorem issued_of_invoices (some : credit.invoices ≠ []) :
    phase = .invoiced ∨ phase = .invoicedReturned ∨ phase = .paid ∨
      phase = .paidReturned := by
  have invoices := inPhase.invoices_eq
  cases phase with
  | unheld | held | returned => exact absurd (List.map_eq_nil_iff.mp invoices) some
  | invoiced | invoicedReturned | paid | paidReturned => simp

theorem received_of_payments (some : credit.payments ≠ []) :
    phase = .paid ∨ phase = .paidReturned := by
  have payments := congrArg CreditTraces.payments inPhase.leftBehind
  cases phase with
  | unheld | held | returned | invoiced | invoicedReturned =>
      exact absurd (List.length_eq_zero_iff.mp payments) some
  | paid | paidReturned => simp

end Rows

/-- Nothing has been done for an order that is not placed. -/
theorem Represents.untouched (represents : Represents order system saga)
    (unplaced : system.orders.db.orders order = none) : Untouched order system := by
  have commands := represents.coherent.commands
  have unknown : saga.current.status = none := by
    rw [represents.status_eq, OrdersDb.statusOf, unplaced]
    rfl
  have nothing : ∀ kind, ¬ saga.owed kind :=
    fun kind owed => commands.isPlaced kind owed unknown
  have unreserved : saga.stock = none := by
    by_contra some
    exact nothing _ (commands.reserved some)
  have unheld : saga.credit = .unheld := by
    by_contra held
    exact nothing _ (commands.held held)
  have holdOf := represents.holdOf_unplaced unplaced
  have inPhase := represents.credit.inPhase holdOf.ofOrder holdOf.asked
  have phase := represents.stock.phase
  rw [unreserved] at phase
  constructor
  · exact OrderStock.phase_eq_none_iff.mp phase.symm
  · by_contra some
    rcases List.exists_mem_of_ne_nil _ some with ⟨despatch, listed⟩
    rcases List.mem_filter.mp listed with ⟨despatchMem, isOrder⟩
    have consumed := represents.consumed_of_despatch despatchMem
      (of_decide_eq_true isOrder)
    rw [unreserved] at consumed
    cases consumed
  · by_contra some
    exact approved_of_items inPhase some unheld
  · by_contra some
    have issued := issued_of_invoices inPhase some
    simp [unheld] at issued
  · by_contra some
    have received := received_of_payments inPhase some
    simp [unheld] at received

/-- Whatever the services interleave, deliver again or cancel: nothing is done
for an order that is not placed, and each effect rests on the one before it. -/
theorem effects_in_order {stock : StockCatalogue} {credits : CreditCatalogue}
    (reached : Reachable SagaSystem.step unguarded (SagaSystem.initial stock credits)
      system) (order : OrderNumber) :
    (system.orders.db.orders order = none ∧ Untouched order system) ∨
      ∃ row, system.orders.db.orders order = some row ∧ EffectsInOrder row system := by
  cases stored : system.orders.db.orders order with
  | none =>
      rcases exists_represented order reached with ⟨saga, represents⟩
      exact Or.inl ⟨rfl, represents.untouched stored⟩
  | some row =>
      right
      refine ⟨row, rfl, ?_⟩
      rcases exists_carriedOut reached stored with ⟨saga, represents, keeps, carriesOut⟩
      have ofOrder : row.orderReference = order := keeps.ofOrder
      subst ofOrder
      have owesOnly := keeps.owesOnly
      have ⟨emissions, commands, _, _⟩ := represents.coherent
      have inPhase := represents.creditInPhase owesOnly rfl carriesOut
      have reservedInFull : saga.stock ≠ none →
          ReservedInFull (termsOf row) system.fulfillment.db :=
        represents.reservedInFull rfl carriesOut
      have heldInFull : saga.credit ≠ .unheld →
          HeldInFull (termsOf row) system.billing.db :=
        represents.heldInFull owesOnly rfl carriesOut
      have shippedInFull : saga.emitted .orderDespatched →
          ShippedInFull (termsOf row) system.fulfillment.db :=
        fun despatched => represents.shippedInFull owesOnly rfl carriesOut
          (emissions.despatched.mp despatched)
      have despatchedOfIssued : saga.emitted .invoiceIssued →
          saga.emitted .orderDespatched :=
        fun issued => Or.inr (commands.invoiceIssue (commands.issued issued))
      constructor
      · intro some
        apply reservedInFull
        rw [represents.stock.phase]
        exact fun none => some (OrderStock.phase_eq_none_iff.mp none)
      · intro some
        have approved := approved_of_items inPhase some
        have reserved := commands.creditHold (commands.held approved)
        exact ⟨reservedInFull (emissions.reserved.mp (Or.inr reserved)),
          heldInFull approved⟩
      · intro some
        rcases List.exists_mem_of_ne_nil _ some with ⟨despatch, listed⟩
        rcases List.mem_filter.mp listed with ⟨despatchMem, isOrder⟩
        have consumed := represents.consumed_of_despatch despatchMem
          (of_decide_eq_true isOrder)
        have approved := commands.despatchCreate (commands.consumed consumed)
        have despatched := emissions.despatched.mpr consumed
        exact ⟨heldInFull (emissions.approved.mp (Or.inr approved)),
          shippedInFull despatched, represents.not_holdReturned despatched⟩
      · intro some
        have issued := emissions.issued.mpr (issued_of_invoices inPhase some)
        have invoicedInFull : InvoicedInFull (termsOf row) system.billing.db :=
          represents.invoicedInFull owesOnly rfl carriesOut issued
        exact ⟨shippedInFull (despatchedOfIssued issued), invoicedInFull⟩
      · intro some
        have received := emissions.received.mpr (received_of_payments inPhase some)
        have despatched : saga.emitted .orderDespatched := by
          apply despatchedOfIssued
          rw [emissions.issued]
          exact Or.inr (Or.inr (emissions.received.mp received))
        have settledInFull : SettledInFull (termsOf row) system.billing.db :=
          represents.settledInFull owesOnly rfl carriesOut keeps.priced.totalled
            (represents.coherent.paid_of_received despatched received)
        exact ⟨shippedInFull despatched, settledInFull⟩

/-- The order is despatched, and its despatch rests on its hold. -/
theorem despatched_order_in_order :
    ∃ system, Reachable SagaSystem.step unguarded
        (SagaSystem.initial FulfillmentSystem.twoProducts tenThousandLimit) system ∧
      (system.fulfillment.db.orderStock ⟨1⟩).despatches ≠ [] ∧
        ((system.orders.db.orders ⟨1⟩ = none ∧ Untouched ⟨1⟩ system) ∨
          ∃ row, system.orders.db.orders ⟨1⟩ = some row ∧ EffectsInOrder row system) := by
  have ran : (execute (choosing SagaSystem.step)
      (fun state choose => decide (unguarded state (choose state)))
      (SagaSystem.initial FulfillmentSystem.twoProducts tenThousandLimit)
      despatchBeforeRelease).map (fun system =>
        (system.fulfillment.db.orderStock ⟨1⟩).despatches.isEmpty) = some false := by
    decide +kernel
  rcases Option.map_eq_some_iff.mp ran with ⟨system, executed, despatched⟩
  have reached := reachable_of_choices executed
  refine ⟨system, reached, ?_, effects_in_order reached ⟨1⟩⟩
  intro none
  simp [none] at despatched

end OrderToCash.Saga
