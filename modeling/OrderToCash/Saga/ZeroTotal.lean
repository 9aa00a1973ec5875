import OrderToCash.Orders.Handlers
import OrderToCash.Saga.MoneyAgreement

/-!
# Orders of total zero

Orders waits for a fact at every turn: that the invoice was issued, that the
payment was received, that the credit was released.  Billing tells a fact where
an order ties something up, which it reads off amounts.  An order whose
discounts eat up its lines is placed and held with the amount zero, and from
then on none of the three facts is told.
-/

namespace OrderToCash.Saga

open OrderToCash.Billing
open OrderToCash.Checked
open OrderToCash.Contracts
open OrderToCash.Kernel
open OrderToCash.Orders
open OrderToCash.Transition

/-! ## What Orders does with the facts -/

/-- The command a fact leaves owed. -/
abbrev Owed := SagaCommandKind × SagaCommandPayload

/-- Handled while the order is in the first status, the fact leads it to the
second and leaves the command owed. -/
def Leads (props : OrderProps) (source : OrderStatus) (fact : Fact)
    (target : OrderStatus) (owed : Option Owed) : Prop :=
  ∀ (db : OrdersDb) (eventId : EventId) (topic : Topic),
    db.orders props.orderReference = some { props with status := source } →
      ∃ work, handleFact db ⟨eventId, fact⟩ topic = .ok work ∧
        (applyWrites db work.writes).statusOf props.orderReference = some target ∧
          work.enqueued = owed.map Prod.fst ∧
            ∀ command ∈ owed, .enqueue props.orderReference command.1
              (.enqueued command.2 (.fact ⟨eventId, fact⟩) topic) ∈ work.writes

/-- The order as its row is read in a status it is not cancelled in. -/
theorem findById_of_totalled {props : OrderProps} (totalled : Totalled props)
    (notCancelled : props.cancellationReason = none) {db : OrdersDb}
    {status : OrderStatus} (alive : status ≠ .cancelled)
    (stored : db.orders props.orderReference = some { props with status := status }) :
    db.findById props.orderReference = .ok (some ⟨{ props with status := status }, []⟩) := by
  have rebuilt : Order.reconstitute { props with status := status } =
      .ok ⟨{ props with status := status }, []⟩ := by
    simp only [Order.reconstitute, if_neg totalled.lines, alive, false_and, if_false,
      notCancelled, ne_eq, not_true_eq_false, and_false, bind, Except.bind,
      totalled.computed]
  unfold OrdersDb.findById
  rw [stored]
  simp only [rebuilt, Except.map]

/-- The selected step runs on the order. -/
theorem leads_of_runStep {props : OrderProps} (totalled : Totalled props)
    (notCancelled : props.cancellationReason = none) {source target : OrderStatus}
    {fact : Fact} {step : SagaStep} {owed : Option Owed} (alive : source ≠ .cancelled)
    (ofOrder : fact.orderReference = props.orderReference)
    (onTime : fact.eventType ≠ .creditApproved)
    (selected : stepForStatus fact.eventType source = some step)
    (runs : ∀ eventId topic, ∃ saved work,
      runStep step ⟨{ props with status := source }, []⟩ ⟨eventId, fact⟩ topic =
          .ok work ∧
        saved.props.orderReference = props.orderReference ∧
          saved.props.status = target ∧ work.enqueued = owed.map Prod.fst ∧
            work.writes = .save saved :: owed.toList.map fun command =>
              .enqueue props.orderReference command.1
                (.enqueued command.2 (.fact ⟨eventId, fact⟩) topic)) :
    Leads props source fact target owed := by
  intro db eventId topic stored
  rcases runs eventId topic with ⟨saved, work, ran, reference, status, enqueued, writes⟩
  have found := findById_of_totalled totalled notCancelled alive stored
  have notLate : ¬ LateForAcceptedOperatorCancel db { props with status := source }
      ⟨eventId, fact⟩ := fun late => onTime late.1
  refine ⟨work, ?_, ?_, enqueued, ?_⟩
  · simp only [handleFact, Envelope.correlationId, ofOrder, found, Except.mapError, bind,
      Except.bind, if_neg notLate, Envelope.eventType, selected]
    exact ran
  · have saves : (db.save saved).statusOf props.orderReference = some target := by
      rw [OrdersDb.save_statusOf, if_pos reference.symm, OrdersDb.statusOf, stored,
        status]
      rfl
    rw [writes]
    cases owed with
    | none => exact saves
    | some command =>
        rw [← saves]
        simp only [Option.toList, List.map_cons, List.map_nil, applyWrites,
          OrdersWrite.apply, OrdersDb.statusOf, OrdersDb.enqueue_orders]
  · rintro command rfl
    rw [writes]
    exact List.mem_cons_of_mem _ (List.mem_singleton_self _)

/-! ## The turns of an order past its confirmation -/

section Turns

variable {props : OrderProps} (totalled : Totalled props)
  (notCancelled : props.cancellationReason = none)
include totalled notCancelled

theorem leads_orderDespatched {payload : OrderDespatchedPayload}
    (ofOrder : payload.orderReference = props.orderReference) :
    Leads props .confirmed (.orderDespatched payload) .despatched
      (some (.invoiceIssue, .invoiceIssue (invoiceRequestOf props))) := by
  refine leads_of_runStep totalled notCancelled (by decide) ofOrder nofun rfl
    fun eventId topic => ?_
  refine ⟨⟨{ props with status := .despatched }, []⟩, ⟨[_, _], false, some _⟩, ?_, rfl,
    rfl, rfl, rfl⟩
  have built : buildSagaCommandPayload .invoiceIssue
      { props with status := .despatched } ⟨eventId, .orderDespatched payload⟩ =
        .ok (.invoiceIssue (invoiceRequestOf props)) := by
    unfold buildSagaCommandPayload nonEmptyInvoiceLines
    rw [if_neg totalled.lines]
    rfl
  apply bind_eq_ok_iff.mpr
  exact ⟨_, rfl, bind_eq_ok_iff.mpr ⟨_, bind_eq_ok_iff.mpr ⟨_, built, rfl⟩, rfl⟩⟩

theorem leads_invoiceIssued {payload : InvoiceIssuedPayload}
    (ofOrder : payload.orderReference = props.orderReference) :
    Leads props .despatched (.invoiceIssued payload) .invoiced none := by
  refine leads_of_runStep totalled notCancelled (by decide) ofOrder nofun rfl
    fun eventId topic => ?_
  exact ⟨⟨{ props with status := .invoiced }, []⟩, _, rfl, rfl, rfl, rfl, rfl⟩

theorem leads_paymentReceived {payload : PaymentReceivedPayload}
    (ofOrder : payload.orderReference = props.orderReference) :
    Leads props .invoiced (.paymentReceived payload) .paid none := by
  refine leads_of_runStep totalled notCancelled (by decide) ofOrder nofun rfl
    fun eventId topic => ?_
  exact ⟨⟨{ props with status := .paid }, []⟩, _, rfl, rfl, rfl, rfl, rfl⟩

/-- The release a payment brings completes the order. -/
theorem leads_creditReleased_completed {payload : CreditReleasedPayload}
    (ofOrder : payload.orderReference = props.orderReference) :
    Leads props .paid (.creditReleased payload) .completed none := by
  refine leads_of_runStep totalled notCancelled (by decide) ofOrder nofun rfl
    fun eventId topic => ?_
  exact ⟨⟨{ props with status := .completed }, _⟩, _, rfl, rfl, rfl, rfl, rfl⟩

/-- The stock release of an accepted cancel leaves the credit release owed. -/
theorem leads_stockReleased {payload : StockReleasedPayload}
    (ofOrder : payload.orderReference = props.orderReference) :
    Leads props .confirmed (.stockReleased payload) .confirmed
      (some (.creditRelease, .creditRelease
        ⟨props.orderReference, props.retailerCode, props.companyCode⟩)) := by
  refine leads_of_runStep totalled notCancelled (by decide) ofOrder nofun rfl
    fun eventId topic => ?_
  exact ⟨⟨{ props with status := .confirmed }, []⟩, _, rfl, rfl, rfl, rfl, rfl⟩

/-- The credit release of an accepted cancel cancels the order. -/
theorem leads_creditReleased_cancelled {payload : CreditReleasedPayload}
    (ofOrder : payload.orderReference = props.orderReference)
    (reason : payload.reason = .orderCancelled) :
    Leads props .confirmed (.creditReleased payload) .cancelled none := by
  refine leads_of_runStep totalled notCancelled (by decide) ofOrder nofun rfl
    fun eventId topic => ?_
  have mapped : mapCreditReleaseReason
      (creditReleaseReason? (.creditReleased payload)) = .ok .operatorCancelled := by
    rw [creditReleaseReason?, reason]
    rfl
  exact ⟨⟨{ props with
      status := .cancelled, cancellationReason := some .operatorCancelled }, _⟩, _,
    bind_eq_ok_iff.mpr ⟨_, mapped, rfl⟩, rfl, rfl, rfl, rfl⟩

end Turns

/-! ## What Billing tells -/

/-- The requests of an order are its own. -/
def OwnRequests (props : OrderProps) : Guard BillingSystem BillingAction :=
  fun system action =>
    BillingSystem.SameHoldRequest (holdRequestOf props) system action ∧
      SameInvoiceRequest (invoiceRequestOf props) system action

instance (props : OrderProps) (system : BillingSystem) (action : BillingAction) :
    Decidable (OwnRequests props system action) :=
  inferInstanceAs (Decidable (_ ∧ _))

theorem agreed_of_reachable {props : OrderProps} (totalled : Totalled props)
    {system later : BillingSystem} (agreed : Agreed props system)
    (reached : Reachable BillingSystem.step (OwnRequests props) system later) :
    Agreed props later :=
  reached.invariant agreed fun _ _ _ agreed same stepped =>
    agreed_step totalled agreed same.1 same.2 stepped

/-- The credit release Orders owes for a cancelled order. -/
def releaseRequestOf (props : OrderProps) : CreditReleaseRequest :=
  ⟨props.orderReference, props.retailerCode, props.companyCode⟩

/-- The order was approved, and nothing was done with its hold since. -/
structure Approved (props : OrderProps) (db : BillingDb) : Prop where
  hasHold : (db.orderCredit props.orderReference).HasHold
  unreleased : ∀ row ∈ db.itemsOfOrder props.orderReference, row.type ≠ .release
  first : db.findByOrderReference props.orderReference = none

namespace Agreed

variable {props : OrderProps} {system : BillingSystem}

theorem inPhase (agreed : Agreed props system) (approved : Approved props system.db) :
    (system.db.orderCredit props.orderReference).InPhase props.totalAmount.amount
      .held :=
  agreed.held_of_hold approved.hasHold approved.unreleased approved.first

/-- An invoicing that succeeds tells of the invoice it creates. -/
theorem invoiceIssued_of_ok (agreed : Agreed props system)
    (approved : Approved props system.db) {db : BillingDb} {reply : BillingReply}
    (result : system.db.issueInvoice (invoiceRequestOf props) = .ok (db, reply)) :
    0 < props.totalAmount.amount ∧ ∃ payload,
      db.outbox = system.db.outbox ++ [.invoiceIssued payload] ∧
        payload.orderReference = props.orderReference := by
  rcases BillingDb.issueInvoice_effect result with ⟨line, _, effect⟩
  cases effect with
  | repeated existing found =>
      exact absurd (found.symm.trans approved.first) (Option.some_ne_none existing)
  | issued invoice payload first held identifier reference ofOrder ofLine isIssued
      payloadOf =>
      refine ⟨?_, payload, rfl, payloadOf⟩
      have active := (agreed.inPhase approved).activeHold_eq
      change activeHoldOfRows (system.db.itemsOfOrder props.orderReference) = _ at active
      rw [if_pos rfl] at active
      change 0 < activeHoldOfRows (system.db.itemsOf line.id props.orderReference) at held
      rcases BillingDb.itemsOf_eq_or_nil agreed.accounted.onLine line.id with all | none
      · change system.db.itemsOf line.id props.orderReference =
          system.db.itemsOfOrder props.orderReference at all
        rw [all, active] at held
        omega
      · change system.db.itemsOf line.id props.orderReference = [] at none
        rw [none] at held
        exact absurd held (by decide)

/-- What an order that is held ties up is on the line of its codes. -/
theorem exposed (agreed : Agreed props system) {phase : CreditPhase}
    (inPhase : (system.db.orderCredit props.orderReference).InPhase
      props.totalAmount.amount phase)
    (tied : phase = .held ∨ phase = .invoiced) :
    ∃ line, system.db.findCredit props.retailerCode props.companyCode = some line ∧
      exposureOfRows (system.db.itemsOf line.id props.orderReference) =
        props.totalAmount.amount := by
  have exposure := inPhase.exposure_eq
  have hasHold := inPhase.hasHold_iff.mpr
  have isTied : OrderCredit.exposureOf props.totalAmount.amount phase =
      props.totalAmount.amount ∧ phase ≠ .unheld := by
    rcases tied with rfl | rfl
    · exact ⟨rfl, by decide⟩
    · exact ⟨rfl, by decide⟩
  rcases hasHold isTied.2 with ⟨row, rowMem, _⟩
  rcases agreed.accounted.onLine row rowMem with ⟨line, found, _⟩
  have all := BillingDb.itemsOf_eq agreed.accounted.onLine found
  refine ⟨line, found, ?_⟩
  exact (congrArg exposureOfRows all).trans (exposure.trans isTied.1)

end Agreed

/-- A release finds its line and an exposure that is not negative, and succeeds. -/
theorem releaseCredit_isOk {db : BillingDb} (sound : db.Sound)
    (request : CreditReleaseRequest) {line : CreditRow}
    (found : db.findCredit request.retailerCode request.companyCode = some line)
    (nonneg : 0 ≤ exposureOfRows (db.itemsOf line.id request.orderReference)) :
    ∃ db' reply, db.releaseCredit request = .ok (db', reply) := by
  have locks := BillingDb.locks_of_found sound found request.orderReference
  have notNegative := Int.not_lt.mpr nonneg
  unfold BillingDb.releaseCredit
  simp only [bind, Except.bind, locks, BuyerCredit.releaseHold,
    BuyerCredit.outstanding_snapshot, if_neg notNegative]
  by_cases none : exposureOfRows (db.itemsOf line.id request.orderReference) = 0
  · rw [if_pos none]
    exact ⟨_, _, rfl⟩
  · rw [if_neg none]
    exact ⟨_, _, rfl⟩

namespace Agreed

variable {props : OrderProps} {system : BillingSystem}

/-- The release of an order that ties something up is told. -/
theorem creditReleased (agreed : Agreed props system)
    (approved : Approved props system.db) (positive : 0 < props.totalAmount.amount) :
    ∃ db reply payload,
      system.db.releaseCredit (releaseRequestOf props) = .ok (db, reply) ∧
        db.outbox = system.db.outbox ++ [.creditReleased payload] ∧
          payload.orderReference = props.orderReference ∧
            payload.reason = .orderCancelled := by
  rcases agreed.exposed (agreed.inPhase approved) (Or.inl rfl) with
    ⟨line, found, exposure⟩
  have nonneg : 0 ≤ exposureOfRows (system.db.itemsOf line.id
      (releaseRequestOf props).orderReference) := by
    change 0 ≤ exposureOfRows (system.db.itemsOf line.id props.orderReference)
    omega
  rcases releaseCredit_isOk agreed.accounted.sound (releaseRequestOf props) found nonneg with
    ⟨db, reply, result⟩
  rcases BillingDb.releaseCredit_effect result with
    ⟨other, rows, facts, count, otherFound, effect, rfl⟩
  cases Option.some.inj (found.symm.trans otherFound)
  cases effect with
  | nothing none =>
      change exposureOfRows (system.db.itemsOf line.id props.orderReference) = 0 at none
      omega
  | released payload some payloadOf sameReason =>
      exact ⟨_, reply, payload, result, rfl, payloadOf, sameReason⟩

/-- The payment of an invoiced order is told, and the release it brings. -/
theorem paymentReceived (agreed : Agreed props system) {row : InvoiceRow}
    (stored : row ∈ system.db.invoices) (ofOrder : row.orderReference = props.orderReference)
    (unpaid : row.status = .issued)
    (unreleased : ∀ item ∈ system.db.itemsOfOrder props.orderReference,
      item.type ≠ .release)
    {request : PaymentRegisterRequest} (total : request.amount = props.totalAmount)
    (first : system.db.findPaymentByReference request.paymentReference = none) :
    ∃ db reply received released,
      system.db.registerPayment request row = .ok (db, reply) ∧
        db.outbox = system.db.outbox ++
            [.paymentReceived received, .creditReleased released] ∧
          received.orderReference = props.orderReference ∧
            released.orderReference = props.orderReference := by
  have sound := agreed.accounted.sound
  rcases agreed.accounted.consistent with ⟨phase, inPhase⟩
  have isInvoiced : phase = .invoiced := by
    have invoices := inPhase.invoices_eq
    have only : (system.db.orderCredit (holdRequestOf props).orderReference).invoices =
        [row] := BillingDb.invoicesOf_eq_singleton sound stored ofOrder
    rw [only, List.map_singleton, unpaid] at invoices
    rcases unreleased_of_inPhase inPhase unreleased with rfl | rfl | rfl
    · cases invoices
    · cases invoices
    · rfl
  subst isInvoiced
  have positive : 0 < props.totalAmount.amount :=
    inPhase.positive (by decide) (by decide)
  rcases agreed.exposed inPhase (Or.inr rfl) with ⟨line, found, exposure⟩
  have named := agreed.accounted.invoicedTo row
    (List.mem_filter.mpr ⟨stored, decide_eq_true ofOrder⟩)
  rcases agreed.invoices row stored ofOrder with ⟨amount, currency⟩
  have isTotal : request.amount = ⟨row.totalAmount, row.currencyCode⟩ := by
    rw [total, amount, currency]
  have located := BillingDb.findById_of_mem sound stored
  have settled := BillingSystem.payable_settled sound agreed.booked located rfl rfl unpaid
    isTotal (fun other _ => by
      rw [ofOrder]
      apply BillingSystem.exposure_nonneg agreed.accounted other
      exact List.ne_nil_of_mem (List.mem_filter.mpr ⟨stored, decide_eq_true ofOrder⟩))
  rcases settled.1 first with ⟨db, reply, result, effective⟩
  rcases BillingDb.registerPayment_effect result with ⟨other, otherFound, effect⟩
  rw [named.1, named.2] at otherFound
  cases Option.some.inj (found.symm.trans otherFound)
  cases effect with
  | repeated locked lockedFound paid =>
      cases Option.some.inj (located.symm.trans lockedFound)
      rw [unpaid] at paid
      cases paid
  | paid locked payment payload rows facts lockedFound _ _ _ _ payloadOf _ release =>
      cases Option.some.inj (located.symm.trans lockedFound)
      cases release with
      | nothing none =>
          rw [ofOrder] at none
          omega
      | released payload' some releasedOf =>
          exact ⟨_, reply, payload, payload', result, rfl, payloadOf.trans ofOrder,
            releasedOf.trans ofOrder⟩

end Agreed

/-! ## No order is wedged -/

/-- Where an approved order of Billing can go: it is invoiced, its invoice is
paid and it is completed; or its release is told and it is cancelled. -/
structure Flows (props : OrderProps) (system : BillingSystem) : Prop where
  despatched : ∀ payload : OrderDespatchedPayload,
    payload.orderReference = props.orderReference →
      Leads props .confirmed (.orderDespatched payload) .despatched
        (some (.invoiceIssue, .invoiceIssue (invoiceRequestOf props)))
  invoiced : ∃ db reply payload,
    system.db.issueInvoice (invoiceRequestOf props) = .ok (db, reply) ∧
      db.outbox = system.db.outbox ++ [.invoiceIssued payload] ∧
        Leads props .despatched (.invoiceIssued payload) .invoiced none
  paid : ∀ later, Reachable BillingSystem.step (OwnRequests props) system later →
    ∀ row ∈ later.db.invoices, row.orderReference = props.orderReference →
      row.status = .issued →
        (∀ item ∈ later.db.itemsOfOrder props.orderReference, item.type ≠ .release) →
          ∀ request, request.amount = props.totalAmount →
            later.db.findPaymentByReference request.paymentReference = none →
              ∃ db reply received released,
                later.db.registerPayment request row = .ok (db, reply) ∧
                  db.outbox = later.db.outbox ++
                      [.paymentReceived received, .creditReleased released] ∧
                    Leads props .invoiced (.paymentReceived received) .paid none ∧
                      Leads props .paid (.creditReleased released) .completed none
  stockReleased : ∀ payload : StockReleasedPayload,
    payload.orderReference = props.orderReference →
      Leads props .confirmed (.stockReleased payload) .confirmed
        (some (.creditRelease, .creditRelease (releaseRequestOf props)))
  released : ∃ db reply payload,
    system.db.releaseCredit (releaseRequestOf props) = .ok (db, reply) ∧
      db.outbox = system.db.outbox ++ [.creditReleased payload] ∧
        Leads props .confirmed (.creditReleased payload) .cancelled none

/-- An order whose discount is all of its one line. -/
def freeInput : PlaceOrderInput :=
  { discountedInput with
    lines := [⟨"PRD-0001", "", 1, ⟨100, .eur⟩, ⟨100, .eur⟩⟩] }

/-- The order is held. -/
def heldOnly (props : OrderProps) : List BillingAction :=
  [ .receive (.creditHold (holdRequestOf props)), .run 0 false ]

instance (props : OrderProps) (db : BillingDb) : Decidable (Approved props db) :=
  decidable_of_iff
    ((∃ row ∈ (db.orderCredit props.orderReference).items, row.type = .hold) ∧
      (∀ row ∈ db.itemsOfOrder props.orderReference, row.type ≠ .release) ∧
        db.findByOrderReference props.orderReference = none)
    ⟨fun ⟨hasHold, unreleased, first⟩ => ⟨hasHold, unreleased, first⟩,
      fun approved => ⟨approved.hasHold, approved.unreleased, approved.first⟩⟩

/-- What becomes of an order that is placed and held: its total, whether it was
approved, and the error its invoicing is refused with. -/
def heldOutcome (input : PlaceOrderInput) : Option (Money × Bool × Option BillingError) :=
  (Order.place (fun index => ⟨index⟩) input).toOption.bind fun order =>
    (execute BillingSystem.step
        (fun state action => decide (OwnRequests order.props state action))
      (BillingSystem.initial BillingSystem.thousandLimit) (heldOnly order.props)).map
      fun system =>
        (order.props.totalAmount, decide (Approved order.props system.db),
          match system.db.issueInvoice (invoiceRequestOf order.props) with
          | .ok _ => none
          | .error error => some error)

theorem approved_of_heldOutcome {input : PlaceOrderInput} {total : Money}
    {error : Option BillingError} (outcome : heldOutcome input = some (total, true, error)) :
    ∃ order system,
      Order.place (fun index => ⟨index⟩) input = .ok order ∧
        order.props.totalAmount = total ∧
          Reachable BillingSystem.step (OwnRequests order.props)
              (BillingSystem.initial BillingSystem.thousandLimit) system ∧
            Approved order.props system.db := by
  unfold heldOutcome at outcome
  rcases Option.bind_eq_some_iff.mp outcome with ⟨order, placed, outcome⟩
  rcases Option.map_eq_some_iff.mp outcome with ⟨system, ran, outcome⟩
  rcases Prod.mk.inj outcome with ⟨isTotal, outcome⟩
  rcases Prod.mk.inj outcome with ⟨isApproved, _⟩
  refine ⟨order, system, ?_, isTotal, reachable_of_execute ran,
    of_decide_eq_true isApproved⟩
  cases accepted : Order.place (fun index => ⟨index⟩) input with
  | error error => rw [accepted] at placed; cases placed
  | ok other =>
      rw [accepted] at placed
      exact congrArg Except.ok (Option.some.inj placed)

end OrderToCash.Saga
