import OrderToCash.Billing.Repeats

/-!
# The protocol of an order in Billing

Holds, invoicings, releases and payments of any orders, in any number and
interleaved in any way.  An order gets one approval, one invoice, one payment
and one release, of what it held; its payment is told before the release it
brings.
-/

namespace OrderToCash.Billing

open OrderToCash.Checked
open OrderToCash.Contracts
open OrderToCash.Kernel
open OrderToCash.Transition

/-! ## The held amount -/

/-- What an order's facts say was held and released is this amount. -/
def OfAmount (amount : Int) : Fact → Prop
  | .creditApproved payload => payload.heldAmount = amount
  | .creditReleased payload => payload.releasedAmount = amount
  | _ => True

namespace BillingDb

/-- A release on a line is of what its order ties up. -/
theorem ReleaseEffect.ofAmount {db : BillingDb} {order : OrderNumber}
    {line : CreditRow} {reason : CreditReleaseReason} {rows : List CreditItemRow}
    {facts : List Fact} {amount : Int} (effect : db.ReleaseEffect order line reason rows facts)
    (exposed : 0 < exposureOfRows (db.itemsOf line.id order) →
      exposureOfRows (db.itemsOf line.id order) = amount) :
    ∀ fact ∈ facts, OfAmount amount fact := by
  cases effect with
  | nothing => exact List.forall_mem_nil _
  | released payload some payloadOf sameReason releasedAmount =>
      exact List.forall_mem_singleton.mpr (releasedAmount.trans (exposed some))

end BillingDb

namespace BillingSystem

open BillingDb

/-- Where an order ties something up, it is the amount of its hold. -/
theorem exposure_eq_amount {system : BillingSystem} {hold : CreditHoldRequest}
    (accounted : system.Accounted hold) (line : CreditRow)
    (some : 0 < exposureOfRows (system.db.itemsOf line.id hold.orderReference)) :
    exposureOfRows (system.db.itemsOf line.id hold.orderReference) =
      hold.amount.amount := by
  rcases itemsOf_eq_or_nil accounted.onLine line.id with all | none
  · rcases accounted.consistent with ⟨phase, inPhase⟩
    have exposed := inPhase.exposure_eq
    change exposureOfRows (system.db.itemsOfOrder hold.orderReference) = _ at exposed
    rw [all, exposed] at some ⊢
    cases phase with
    | held | invoiced => rfl
    | unheld | returned | invoicedReturned | paid | paidReturned =>
        exact absurd some (by simp [OrderCredit.exposureOf])
  · rw [none] at some
    exact absurd some (by decide)

/-- What an order ties up anywhere is not negative once it is invoiced. -/
theorem exposure_nonneg {system : BillingSystem} {hold : CreditHoldRequest}
    (accounted : system.Accounted hold) (line : CreditRow)
    (invoiced : system.db.invoicesOf hold.orderReference ≠ []) :
    0 ≤ exposureOfRows (system.db.itemsOf line.id hold.orderReference) := by
  rcases itemsOf_eq_or_nil accounted.onLine line.id with all | none
  · rcases accounted.consistent with ⟨phase, inPhase⟩
    have exposed := inPhase.exposure_eq
    change exposureOfRows (system.db.itemsOfOrder hold.orderReference) = _ at exposed
    have invoices := inPhase.invoices_eq
    change (system.db.invoicesOf hold.orderReference).map InvoiceRow.status = _
      at invoices
    rw [all, exposed]
    cases phase with
    | unheld | held | returned =>
        exact absurd (List.map_eq_nil_iff.mp invoices) invoiced
    | invoiced => exact Int.le_of_lt (inPhase.positive (by decide) (by decide))
    | invoicedReturned | paid | paidReturned => exact Int.le_refl 0
  · rw [none]
    exact Int.le_refl 0

/-- The facts a transaction appends are of the order's amount. -/
theorem ofAmount_transaction {system : BillingSystem} {drawn : Bool}
    {call : BillingCall} {db : BillingDb} {reply : BillingReply}
    {hold : CreditHoldRequest} (accounted : system.Accounted hold)
    (callMem : call ∈ system.calls)
    (result : transaction system.db drawn call = some (.ok (db, reply))) :
    ∃ facts, db.outbox = system.db.outbox ++ facts ∧ ∀ fact ∈ facts,
      fact.orderReference = hold.orderReference →
        OfAmount hold.amount.amount fact := by
  have ready := accounted.ready call callMem
  cases call with
  | creditHold request =>
      rcases hold_effect (Option.some.inj result) with ⟨line, found, effect⟩
      cases effect with
      | repeated => exact ⟨[], (List.append_nil _).symm, List.forall_mem_nil _⟩
      | refused payload =>
          exact ⟨_, rfl, List.forall_mem_singleton.mpr fun _ => trivial⟩
      | approved payload first fits payloadOf heldAmount =>
          refine ⟨_, rfl, List.forall_mem_singleton.mpr fun ofOrder => ?_⟩
          have same := ready (payloadOf.symm.trans ofOrder)
          exact heldAmount.trans (congrArg (·.amount.amount) same)
  | creditRelease request =>
      rcases releaseCredit_effect (Option.some.inj result) with
        ⟨line, rows, facts, count, found, effect, rfl⟩
      refine ⟨facts, rfl, fun fact factMem ofOrder => ?_⟩
      have same := (effect.ofOrder.2 fact factMem).symm.trans ofOrder
      exact (same ▸ effect).ofAmount (exposure_eq_amount accounted line) fact
        factMem
  | invoiceIssue request =>
      rcases issueInvoice_effect (Option.some.inj result) with ⟨line, found, effect⟩
      cases effect with
      | repeated => exact ⟨[], (List.append_nil _).symm, List.forall_mem_nil _⟩
      | issued invoice payload =>
          exact ⟨_, rfl, List.forall_mem_singleton.mpr fun _ => trivial⟩
  | paymentLooked request => cases result
  | paymentRegister request snapshot =>
      rcases registerPayment_effect (Option.some.inj result) with
        ⟨line, foundLine, effect⟩
      cases effect with
      | repeated => exact ⟨[], (List.append_nil _).symm, List.forall_mem_nil _⟩
      | paid locked payment payload rows facts found unpaid first reference
          ofInvoice payloadOf total release =>
          refine ⟨_, rfl, List.forall_mem_cons.mpr ⟨fun _ => trivial, ?_⟩⟩
          intro fact factMem ofOrder
          have same := (release.ofOrder.2 fact factMem).symm.trans ofOrder
          exact (same ▸ release).ofAmount (exposure_eq_amount accounted line) fact
            factMem

/-- The order's facts are of the amount of its hold. -/
def AmountsAgree (hold : CreditHoldRequest) (system : BillingSystem) : Prop :=
  ∀ fact ∈ system.db.outbox, fact.orderReference = hold.orderReference →
    OfAmount hold.amount.amount fact

theorem amountsAgree_step {system system' : BillingSystem} {action : BillingAction}
    {hold : CreditHoldRequest} (accounted : system.Accounted hold)
    (agree : system.AmountsAgree hold)
    (stepped : step system action = some system') : system'.AmountsAgree hold := by
  cases step_change stepped with
  | committed index drawn call db reply found result =>
      rcases ofAmount_transaction accounted (List.mem_of_getElem? found) result with
        ⟨facts, outbox, ofAmount⟩
      intro fact factMem ofOrder
      change fact ∈ db.outbox at factMem
      rw [outbox] at factMem
      rcases List.mem_append.mp factMem with old | new
      · exact agree fact old ofOrder
      · exact ofAmount fact new ofOrder
  | received | alreadyInvoiced | alreadyRecorded | unknownInvoice | resolved
  | refused | aborted => exact agree

end BillingSystem

/-! ## The order of the facts -/

namespace OrderCredit

/-- The release a payment brings is told after the payment. -/
theorem paymentReceived_mem_of_marks {amount : Int} {phase : CreditPhase}
    {before after : List CreditMark}
    (marks : (tracesOf amount phase).marks =
      before ++ .released .invoicePaid :: after) :
    .paymentReceived ∈ before := by
  have told : CreditMark.released .invoicePaid ∈ (tracesOf amount phase).marks := by
    rw [marks]
    exact List.mem_append_right _ List.mem_cons_self
  cases phase with
  | paid =>
      rcases before with _ | ⟨first, _ | ⟨second, _ | ⟨third, _ | ⟨fourth, rest⟩⟩⟩⟩
      · simp [tracesOf] at marks
      · simp [tracesOf] at marks
      · simp [tracesOf] at marks
      · simp [tracesOf] at marks
        simp [← marks.2.2.1]
      · simp [tracesOf] at marks
  | unheld | held | invoiced | returned | invoicedReturned | paidReturned =>
      exact absurd told (by simp [tracesOf])

/-- An order has what its phase leaves behind, once of each. -/
theorem InPhase.counts {credit : OrderCredit} {amount : Int} {phase : CreditPhase}
    (inPhase : credit.InPhase amount phase) :
    credit.emitted .creditApproved ≤ 1 ∧
      credit.invoices.length ≤ 1 ∧
        credit.emitted .invoiceIssued = credit.invoices.length ∧
          credit.payments.length ≤ 1 ∧
            credit.emitted .paymentReceived = credit.payments.length ∧
              credit.emitted .creditReleased ≤ 1 := by
  have invoices : credit.invoices.length = (tracesOf amount phase).invoices.length := by
    rw [← inPhase.invoices_eq, List.length_map]
  have payments : credit.payments.length = (tracesOf amount phase).payments :=
    congrArg CreditTraces.payments inPhase.leftBehind
  rw [inPhase.emitted_eq (by decide), inPhase.emitted_eq (by decide),
    inPhase.emitted_eq (by decide), inPhase.emitted_eq (by decide), invoices, payments]
  cases phase <;> simp [tracesOf, CreditMark.eventType]

end OrderCredit

namespace BillingSystem

open BillingDb

/-! ## The protocol -/

/-- What Billing keeps to for an order, in every state of a run. -/
structure OrderProtocol (hold : CreditHoldRequest) (system : BillingSystem) :
    Prop where
  approvedOnce : system.emitted hold.orderReference .creditApproved ≤ 1
  invoicedOnce : (system.db.invoicesOf hold.orderReference).length ≤ 1 ∧
    system.emitted hold.orderReference .invoiceIssued =
      (system.db.invoicesOf hold.orderReference).length
  paidOnce : (system.db.paymentsOf hold.orderReference).length ≤ 1 ∧
    system.emitted hold.orderReference .paymentReceived =
      (system.db.paymentsOf hold.orderReference).length
  releasedOnce : system.emitted hold.orderReference .creditReleased ≤ 1
  releasedAmount : ∀ released, .creditReleased released ∈ system.db.outbox →
    released.orderReference = hold.orderReference →
      ∃ approved, .creditApproved approved ∈ system.db.outbox ∧
        approved.orderReference = hold.orderReference ∧
          released.releasedAmount = approved.heldAmount
  paymentFirst : ∀ before released after,
    system.db.outbox = before ++ .creditReleased released :: after →
      released.orderReference = hold.orderReference →
        released.reason = .invoicePaid →
          ∃ received, .paymentReceived received ∈ before ∧
            received.orderReference = hold.orderReference
  /-- A repeat of a request that took effect writes nothing, however it is
  answered. -/
  repeated : ∀ answer ∈ system.answers, ∀ reply, answer.result = .ok reply →
    reply.IsEffective = true → ∀ result, system.MayAnswer answer.request result →
      ∃ again, result = .ok (system.db, again) ∧ reply.Repeats again
  /-- A payment reference is accepted once. -/
  acceptedOnce :
    ((system.answers.filterMap acceptedReference?).map PaymentReference.weight).Nodup
  /-- Of the payments of unpaid invoices by their totals, the first with a
  reference is accepted and the others are refused. -/
  settled : ∀ request snapshot locked,
    .paymentRegister request snapshot ∈ system.calls →
      snapshot.orderReference = hold.orderReference →
        system.db.findById snapshot.id = some locked → locked.status = .issued →
          request.amount = ⟨locked.totalAmount, locked.currencyCode⟩ →
            (system.db.findPaymentByReference request.paymentReference = none →
              ∃ db' reply, system.db.registerPayment request snapshot =
                .ok (db', reply) ∧ reply.IsEffective = true) ∧
            (system.db.findPaymentByReference request.paymentReference ≠ none →
              system.db.registerPayment request snapshot =
                .error (.paymentReferenceConflict request.paymentReference.text))
  /-- A payment that shares with a recorded one its reference but not its
  invoice, or its invoice but not its reference, is refused. -/
  conflicts : ∀ request invoice, system.db.resolveInvoice request = some invoice →
    SpellsAsRecorded system (.receive (.paymentRegister request)) →
      ∀ payment ∈ system.db.payments,
        ¬ (payment.paymentReference = request.paymentReference ↔
          payment.invoiceId = invoice.id) →
          ∀ result, system.MayAnswer (.paymentRegister request) result →
            ∃ error, result = .error error
  /-- A payment was answered with success under its own reference only. -/
  ownReference : ∀ answer ∈ system.answers, answer.OwnReference

theorem orderProtocol_of_kept {system : BillingSystem} {hold : CreditHoldRequest}
    (accounted : system.Accounted hold) (agree : system.AmountsAgree hold)
    (recorded : system.Recorded) : system.OrderProtocol hold := by
  rcases accounted.consistent with ⟨phase, inPhase⟩
  have marks := inPhase.marks_eq
  rcases inPhase.counts with
    ⟨approvals, invoices, issued, payments, received, releases⟩
  constructor
  · exact approvals
  · exact ⟨invoices, issued⟩
  · exact ⟨payments, received⟩
  · exact releases
  · intro released releasedMem ofOrder
    have told : CreditMark.released released.reason ∈
        (OrderCredit.tracesOf hold.amount.amount phase).marks := by
      rw [← marks]
      exact List.mem_filterMap.mpr ⟨_, List.mem_filter.mpr
        ⟨releasedMem, decide_eq_true ofOrder⟩, rfl⟩
    have approval : CreditMark.approved ∈
        (OrderCredit.tracesOf hold.amount.amount phase).marks := by
      cases phase with
      | unheld => cases told
      | held | invoiced | returned | invoicedReturned | paid | paidReturned =>
          exact List.mem_cons_self
    rw [← marks] at approval
    rcases List.mem_filterMap.mp approval with ⟨fact, factMem, isApproval⟩
    rcases List.mem_filter.mp factMem with ⟨stored, factOf⟩
    cases fact with
    | creditApproved approved =>
        refine ⟨approved, stored, of_decide_eq_true factOf, ?_⟩
        exact (agree _ releasedMem ofOrder).trans
          (agree _ stored (of_decide_eq_true factOf)).symm
    | orderPlaced | orderConfirmed | orderCompleted | orderCancelled
    | orderSagaFailed | stockReserved | stockRejected | stockReleased
    | orderDespatched | creditRejected | creditReleased | invoiceIssued
    | paymentReceived => cases isApproval
  · intro before released after outbox ofOrder reason
    have split : (OrderCredit.tracesOf hold.amount.amount phase).marks =
        (before.filter (·.orderReference = hold.orderReference)).filterMap markOf? ++
          .released .invoicePaid ::
            (after.filter (·.orderReference = hold.orderReference)).filterMap
              markOf? := by
      have isRelease : markOf? (.creditReleased released) =
          some (.released .invoicePaid) := by
        rw [markOf?, reason]
      have selected : (Fact.creditReleased released :: after).filter
          (·.orderReference = hold.orderReference) =
            .creditReleased released ::
              after.filter (·.orderReference = hold.orderReference) :=
        List.filter_cons_of_pos (decide_eq_true ofOrder)
      rw [← marks]
      change (system.db.outbox.filter _).filterMap _ = _
      rw [outbox, List.filter_append, selected, List.filterMap_append,
        List.filterMap_cons_some isRelease]
    have told := OrderCredit.paymentReceived_mem_of_marks split
    rcases List.mem_filterMap.mp told with ⟨fact, factMem, isReceived⟩
    rcases List.mem_filter.mp factMem with ⟨stored, factOf⟩
    cases fact with
    | paymentReceived payload => exact ⟨payload, stored, of_decide_eq_true factOf⟩
    | orderPlaced | orderConfirmed | orderCompleted | orderCancelled
    | orderSagaFailed | stockReserved | stockRejected | stockReleased
    | orderDespatched | creditRejected | creditReleased | invoiceIssued
    | creditApproved => cases isReceived
  · intro answer answerMem reply isReply effective result may
    exact repeats_of_remembered recorded
      (recorded.remembered answer answerMem reply isReply effective) may
  · rw [recorded.accepted, List.map_map]
    exact recorded.booked.onceReferenced
  · intro request snapshot locked callMem ofOrder found unpaid total
    rcases locked_of_resolved recorded.sound (recorded.calls _ callMem) found with
      ⟨resolved, isLater⟩
    rcases isLater.fields with ⟨_, _, _, sameRetailer, sameCompany, _⟩
    apply payable_settled recorded.sound recorded.booked found sameRetailer
      sameCompany unpaid total
    intro line _
    rw [ofOrder]
    apply exposure_nonneg accounted line
    have stored := mem_of_resolveInvoice resolved
    exact List.ne_nil_of_mem (List.mem_filter.mpr
      ⟨stored, decide_eq_true (isLater.fields.2.1.trans ofOrder)⟩)
  · intro request invoice resolved spells payment stored half result may
    exact refused_of_conflict recorded spells resolved stored half may
  · exact recorded.own

/-- A payment of the first invoice by its identifier, beside another invoice's
reference. -/
def namesTwoInvoices : PaymentRegisterRequest :=
  ⟨.given (UniqueId.text ⟨1⟩), .given 2, ⟨"PAY-0001", "PAY-0001"⟩, ⟨600, .eur⟩,
    .robot⟩

/-- The order is held and invoiced, and the payment is made. -/
def paidByIdentifier (payment : PaymentRegisterRequest) : List BillingAction :=
  [ .receive (.creditHold (holdOf 1 600)),
    .run 0 false,
    .receive (.invoiceIssue ⟨⟨1⟩, "RET-0001", "COM-0001", "EUR",
      [⟨"PRD-0001", 3, 200⟩], 0⟩),
    .run 0 false,
    .receive (.paymentRegister payment),
    .locate 0,
    .run 0 false ]

/-- The replies a payment has been given. -/
def repliesTo (system : BillingSystem) (payment : PaymentRegisterRequest) :
    List BillingReply :=
  system.answers.filterMap fun answer =>
    match answer.result with
    | .ok reply =>
        if answer.request = .paymentRegister payment then some reply else none
    | .error _ => none

/-- What the first read of a recorded payment is refused with. -/
def refusedBy? (system : BillingSystem) (payment : PaymentRegisterRequest) :
    Option BillingError :=
  match system.db.findPaymentByReference payment.paymentReference with
  | none => none
  | some recorded =>
      match system.db.answerRecorded payment recorded with
      | .ok _ => none
      | .error error => some error

end BillingSystem

end OrderToCash.Billing
