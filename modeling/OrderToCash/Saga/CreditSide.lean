import OrderToCash.Billing.Accounts
import OrderToCash.Billing.LineBalance
import OrderToCash.Saga.Delivery

/-!
# Billing's side of the saga

What a step of Billing does to one order, in the saga's terms: nothing, or the
credit moves to its next phase and the facts that tell of it are appended, for a
call that was under way.
-/

namespace OrderToCash.Saga

open OrderToCash.Billing
open OrderToCash.Contracts
open OrderToCash.Kernel
open OrderToCash.Orders
open OrderToCash.Transition

/-- What a call does to the credit of its order, and the facts it emits. -/
inductive CreditMove (order : OrderNumber) (called : BillingCall → Prop) :
    CreditPhase → CreditPhase → List SagaFact → Prop
  | unchanged (phase : CreditPhase) : CreditMove order called phase phase []
  | approved (request : CreditHoldRequest) (isCalled : called (.creditHold request))
      (ofOrder : request.orderReference = order) :
      CreditMove order called .unheld .held [.creditApproved]
  | rejected (request : CreditHoldRequest) (isCalled : called (.creditHold request))
      (ofOrder : request.orderReference = order) :
      CreditMove order called .unheld .unheld [.creditRejected]
  | issued (request : InvoiceIssueRequest) (isCalled : called (.invoiceIssue request))
      (ofOrder : request.orderReference = order) :
      CreditMove order called .held .invoiced [.invoiceIssued]
  | paid : CreditMove order called .invoiced .paid
      [.paymentReceived, .creditReleased .invoicePaid]
  | paidReturned : CreditMove order called .invoicedReturned .paidReturned
      [.paymentReceived]
  | returned (request : CreditReleaseRequest)
      (isCalled : called (.creditRelease request))
      (ofOrder : request.orderReference = order) (phase : CreditPhase)
      (something : phase = .held ∨ phase = .invoiced) :
      CreditMove order called phase (OrderCredit.returnedFrom phase)
        [.creditReleased .orderCancelled]

variable {credit credit' : OrderCredit} {amount : Int} {phase : CreditPhase}

/-- The facts of an order tell its phase. -/
theorem phase_eq_of_marks {other : CreditPhase} {first second : Int}
    (same : (OrderCredit.tracesOf first phase).marks =
      (OrderCredit.tracesOf second other).marks) : phase = other := by
  cases phase <;> cases other <;> simp [OrderCredit.tracesOf] at same <;> rfl

/-- A release for a cancellation, by the facts it appended. -/
theorem creditMove_of_release {order : OrderNumber} {called : BillingCall → Prop}
    {rows : List CreditItemRow} {facts : List Fact} {request : CreditReleaseRequest}
    (inPhase : credit.InPhase amount phase)
    (release : credit.Release .orderCancelled rows facts)
    (isCalled : called (.creditRelease request))
    (ofOrder : request.orderReference = order) :
    ∃ phase', (credit.posted rows facts).InPhase amount phase' ∧
      CreditMove order called phase phase' (facts.filterMap sagaFact?) := by
  rcases inPhase.released release with ⟨phase', after, kept⟩
  refine ⟨phase', after, ?_⟩
  cases release with
  | nothing none =>
      rcases kept with ⟨rfl, _⟩ | ⟨next, moves⟩
      · exact .unchanged _
      · -- without a fact the phase cannot have moved
        have before := inPhase.marks_eq
        have same := after.marks_eq
        simp only [OrderCredit.posted, List.append_nil] at same
        exact absurd (phase_eq_of_marks (same.symm.trans before)) moves
  | released row payload some isRelease ofAmount sameReason =>
      rcases kept with ⟨_, absurdity⟩ | ⟨rfl, moves⟩
      · cases absurdity
      · have emitted : [Fact.creditReleased payload].filterMap sagaFact? =
            [.creditReleased .orderCancelled] := by
          simp [sagaFact?, sameReason]
        rw [emitted]
        apply CreditMove.returned request isCalled ofOrder
        cases phase with
        | held => exact Or.inl rfl
        | invoiced => exact Or.inr rfl
        | unheld | returned | invoicedReturned | paid | paidReturned =>
            exact absurd rfl moves

/-- The move of a committed call, by the facts it appended. -/
theorem creditMove_of_move {call : BillingCall} {order : OrderNumber}
    {called : BillingCall → Prop} (inPhase : credit.InPhase amount phase)
    (moved : credit.Move call credit') (isCalled : called call)
    (ofOrder : call.order? = some order)
    (ofAmount : ∀ request, call = .creditHold request →
      request.amount.amount = amount)
    {new : List Fact} (grown : credit'.facts = credit.facts ++ new) :
    ∃ phase', credit'.InPhase amount phase' ∧
      CreditMove order called phase phase' (new.filterMap sagaFact?) := by
  have unchanged : credit'.facts = credit.facts → new = [] := by
    intro same
    rw [same] at grown
    exact List.self_eq_append_right.mp grown
  have appended : ∀ facts, credit'.facts = credit.facts ++ facts → new = facts := by
    intro facts same
    rw [same] at grown
    exact (List.append_cancel_left grown).symm
  cases moved with
  | holdRepeated | elsewhere | invoiceRepeated | paymentRepeated =>
      rw [unchanged rfl]
      exact ⟨phase, inPhase, .unchanged _⟩
  | refused request payload first =>
      rw [appended _ rfl]
      rw [inPhase.hasHold_iff, not_not] at first
      subst first
      exact ⟨.unheld, inPhase.refused payload,
        .rejected request isCalled (Option.some.inj ofOrder)⟩
  | approved request payload row first isHold rowAmount =>
      rw [appended _ rfl]
      rw [inPhase.hasHold_iff, not_not] at first
      subst first
      exact ⟨.held, inPhase.approved payload isHold
          (rowAmount.trans (ofAmount request rfl)),
        .approved request isCalled (Option.some.inj ofOrder)⟩
  | released request rows facts release =>
      rw [appended facts rfl]
      exact creditMove_of_release inPhase release isCalled (Option.some.inj ofOrder)
  | issued request invoice payload row first held isConsume rowAmount isIssued =>
      rw [appended _ rfl]
      rcases inPhase.issued payload held isConsume rowAmount isIssued with
        ⟨rfl, after⟩
      exact ⟨.invoiced, after, .issued request isCalled (Option.some.inj ofOrder)⟩
  | paid request snapshot locked payment payload rows facts only unpaid release =>
      rw [appended _ rfl]
      rcases inPhase.paid payment payload only unpaid release with
        ⟨after, rfl | rfl⟩
      · refine ⟨_, after, ?_⟩
        cases release with
        | nothing none =>
            rw [inPhase.exposure_eq] at none
            exact absurd none (Int.ne_of_gt (inPhase.positive (by decide) (by decide)))
        | released row released some isRelease ofAmount sameReason =>
            have emitted : [Fact.paymentReceived payload,
                Fact.creditReleased released].filterMap sagaFact? =
                  [.paymentReceived, .creditReleased .invoicePaid] := by
              simp [sagaFact?, sameReason]
            rw [emitted]
            exact .paid
      · refine ⟨_, after, ?_⟩
        cases release with
        | nothing none => exact .paidReturned
        | released row released some isRelease ofAmount sameReason =>
            rw [inPhase.exposure_eq] at some
            exact absurd some (by simp [OrderCredit.exposureOf])

/-- What a step of Billing does to an order that is accounted for. -/
theorem credit_step {hold : CreditHoldRequest} {system system' : BillingSystem}
    {action : BillingAction} (accounted : system.Accounted hold)
    (inPhase : (system.db.orderCredit hold.orderReference).InPhase
      hold.amount.amount phase)
    (stepped : BillingSystem.step system action = some system') :
    ∃ new phase', system'.db.outbox = system.db.outbox ++ new ∧
      (system'.db.orderCredit hold.orderReference).InPhase hold.amount.amount phase' ∧
      CreditMove hold.orderReference (· ∈ system.calls) phase phase'
        (new.filterMap (sagaReading hold.orderReference).read) := by
  cases BillingSystem.step_change stepped with
  | committed index drawn call db reply found result =>
      have callMem := List.mem_of_getElem? found
      rcases BillingSystem.posted_transaction result with ⟨line, order, lineCredit, posted⟩
      rcases posted.recorded with ⟨facts, _, outbox⟩
      rw [List.append_assoc] at outbox
      have grown : (db.orderCredit hold.orderReference).facts =
          (system.db.orderCredit hold.orderReference).facts ++
            (facts ++ lineCredit.domainEvents).filter
              (·.orderReference = hold.orderReference) := by
        change db.outbox.filter _ = system.db.outbox.filter _ ++ _
        rw [outbox, List.filter_append]
      simp only [filterMap_read]
      rcases BillingSystem.orderCredit_transaction accounted callMem result with
        ⟨_, same⟩ | ⟨ofOrder, moved⟩
      · rw [same] at grown
        refine ⟨_, phase, outbox, ?_, ?_⟩
        · change (db.orderCredit hold.orderReference).InPhase _ _
          rw [same]
          exact inPhase
        · rw [List.self_eq_append_right.mp grown]
          exact .unchanged _
      · rcases creditMove_of_move inPhase moved callMem ofOrder
          (BillingSystem.amount_of_ready (accounted.ready call callMem) ofOrder) grown
          with ⟨phase', after, creditMove⟩
        exact ⟨_, phase', outbox, after, creditMove⟩
  | received | alreadyInvoiced | alreadyRecorded | unknownInvoice | resolved
  | refused | aborted =>
      exact ⟨[], phase, (List.append_nil _).symm, inPhase, .unchanged _⟩

/-- The saga sees every fact a release appends. -/
theorem seen_of_release {reason : CreditReleaseReason} {rows : List CreditItemRow}
    {facts : List Fact} (release : credit.Release reason rows facts) :
    ∀ fact ∈ facts, sagaFact? fact ≠ none := by
  cases release with
  | nothing none => simp
  | released row payload => simp [sagaFact?]

/-- The saga sees every fact a call appends. -/
theorem seen_of_creditMove {call : BillingCall} (moved : credit.Move call credit')
    (seen : ∀ fact ∈ credit.facts, sagaFact? fact ≠ none) :
    ∀ fact ∈ credit'.facts, sagaFact? fact ≠ none := by
  have appended {facts : List Fact} (new : ∀ fact ∈ facts, sagaFact? fact ≠ none) :
      ∀ fact ∈ credit.facts ++ facts, sagaFact? fact ≠ none := by
    intro fact factMem
    rcases List.mem_append.mp factMem with old | isNew
    · exact seen fact old
    · exact new fact isNew
  cases moved with
  | holdRepeated | elsewhere | invoiceRepeated | paymentRepeated => exact seen
  | refused | approved | issued =>
      apply appended
      simp [sagaFact?]
  | released request rows facts release => exact appended (seen_of_release release)
  | paid request snapshot locked payment payload rows facts only unpaid release =>
      apply appended
      intro fact factMem
      rcases List.mem_cons.mp factMem with rfl | isReleased
      · simp [sagaFact?]
      · exact seen_of_release release fact isReleased

/-- The saga sees every fact of an order that Billing has appended. -/
theorem creditSeen_step {hold : CreditHoldRequest} {system system' : BillingSystem}
    {action : BillingAction} (accounted : system.Accounted hold)
    (stepped : BillingSystem.step system action = some system')
    (seen : ∀ fact ∈ (system.db.orderCredit hold.orderReference).facts,
      sagaFact? fact ≠ none) :
    ∀ fact ∈ (system'.db.orderCredit hold.orderReference).facts,
      sagaFact? fact ≠ none := by
  cases BillingSystem.step_change stepped with
  | committed index drawn call db reply found result =>
      change ∀ fact ∈ (db.orderCredit hold.orderReference).facts, _
      rcases BillingSystem.orderCredit_transaction accounted
        (List.mem_of_getElem? found) result with ⟨_, same⟩ | ⟨_, moved⟩
      · rw [same]
        exact seen
      · exact seen_of_creditMove moved seen
  | received | alreadyInvoiced | alreadyRecorded | unknownInvoice | resolved
  | refused | aborted => exact seen

end OrderToCash.Saga
