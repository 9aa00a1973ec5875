import OrderToCash.Billing.Accounts
import OrderToCash.Billing.Repeats

/-!
# What an answer says of an order's credit

A credit release of the order's own line that is answered, in whatever way,
leaves the order tying nothing up; a hold that succeeds has its verdict in the
outbox; and an invoicing that succeeds has its invoice stored.
-/

namespace OrderToCash.Billing

open OrderToCash.Contracts
open OrderToCash.Kernel
open OrderToCash.Transition

namespace OrderCredit

variable {credit credit' : OrderCredit} {call : BillingCall}

/-- The order has its hold, or a rejection. -/
def IsDecided (credit : OrderCredit) : Prop :=
  credit.HasHold ∨ ∃ fact ∈ credit.facts, fact.eventType = .creditRejected

/-- The order was held and ties nothing up. -/
def IsReturned (credit : OrderCredit) : Prop :=
  credit.HasHold ∧ credit.exposure = 0

theorem HasHold.posted (hasHold : credit.HasHold) (rows : List CreditItemRow)
    (facts : List Fact) : (credit.posted rows facts).HasHold := by
  rcases hasHold with ⟨row, rowMem, isHold⟩
  exact ⟨row, List.mem_append_left _ rowMem, isHold⟩

/-- A hold is never taken back. -/
theorem HasHold.move (hasHold : credit.HasHold) (moved : credit.Move call credit') :
    credit'.HasHold := by
  cases moved with
  | holdRepeated | elsewhere | invoiceRepeated | paymentRepeated => exact hasHold
  | refused | approved | released => exact hasHold.posted _ _
  | issued request invoice =>
      exact @HasHold.posted { credit with invoices := [invoice] } hasHold _ _
  | paid request snapshot locked payment =>
      exact @HasHold.posted (credit.withPayment payment) hasHold _ _

theorem IsDecided.move (decided : credit.IsDecided) (moved : credit.Move call credit') :
    credit'.IsDecided := by
  rcases decided with hasHold | ⟨fact, factMem, isRejection⟩
  · exact Or.inl (hasHold.move moved)
  · refine Or.inr ⟨fact, ?_, isRejection⟩
    cases moved with
    | holdRepeated | elsewhere | invoiceRepeated | paymentRepeated => exact factMem
    | refused | approved | released | issued | paid =>
        exact List.mem_append_left _ factMem

/-- A hold that commits decides the order. -/
theorem isDecided_of_hold {request : CreditHoldRequest}
    (moved : credit.Move (.creditHold request) credit') : credit'.IsDecided := by
  cases moved with
  | holdRepeated _ held => exact Or.inl held
  | refused _ payload =>
      exact Or.inr ⟨_, List.mem_append_right _ (List.mem_singleton_self _), rfl⟩
  | approved _ payload row first isHold =>
      exact Or.inl ⟨row, List.mem_append_right _ (List.mem_singleton_self _), isHold⟩

theorem invoices_ne_nil_of_move (some : credit.invoices ≠ [])
    (moved : credit.Move call credit') : credit'.invoices ≠ [] := by
  cases moved with
  | holdRepeated | elsewhere | invoiceRepeated | paymentRepeated => exact some
  | refused | approved | released => exact some
  | issued request invoice => exact List.cons_ne_nil _ _
  | paid => simpa [withPayment, posted] using some

/-- An invoicing that commits leaves an invoice. -/
theorem invoices_ne_nil_of_issue {request : InvoiceIssueRequest}
    (moved : credit.Move (.invoiceIssue request) credit') : credit'.invoices ≠ [] := by
  cases moved with
  | invoiceRepeated _ existing => exact existing
  | issued _ invoice => exact List.cons_ne_nil _ _

/-- A release of nothing appends nothing. -/
theorem Release.eq_nil {reason : CreditReleaseReason} {rows : List CreditItemRow}
    {facts : List Fact} (release : credit.Release reason rows facts)
    (none : credit.exposure = 0) : rows = [] := by
  cases release with
  | nothing => rfl
  | released row payload some =>
      rw [none] at some
      exact absurd some (by decide)

/-- An order that ties nothing up stays so. -/
theorem IsReturned.move (returned : credit.IsReturned)
    (moved : credit.Move call credit') : credit'.IsReturned := by
  refine ⟨returned.1.move moved, ?_⟩
  have none := returned.2
  cases moved with
  | holdRepeated | elsewhere | invoiceRepeated | paymentRepeated => exact none
  | refused => simpa [exposure, posted] using none
  | approved request payload row first => exact absurd returned.1 first
  | released request rows facts release =>
      rw [release.eq_nil none]
      simpa [exposure, posted] using none
  | issued request invoice payload row first held isConsume =>
      have unexposed : BillingDb.exposureOfRow row = 0 := by
        simp [BillingDb.exposureOfRow, isConsume]
      simpa [exposure, posted, exposureOfRows, unexposed] using none
  | paid request snapshot locked payment payload rows facts only unpaid release =>
      rw [release.eq_nil none]
      simpa [exposure, posted, withPayment] using none

end OrderCredit

namespace BillingSystem

open BillingDb

/-- What the answers so far say of the order. -/
structure Answered (order : OrderNumber) (system : BillingSystem) : Prop where
  decided : ∀ answer ∈ system.answers, ∀ request reply,
    answer.request = .creditHold request → request.orderReference = order →
      answer.result = .ok reply → (system.db.orderCredit order).IsDecided
  invoiced : ∀ answer ∈ system.answers, ∀ request reply,
    answer.request = .invoiceIssue request → request.orderReference = order →
      answer.result = .ok reply → (system.db.orderCredit order).invoices ≠ []
  returned : ∀ answer ∈ system.answers, ∀ request,
    answer.request = .creditRelease request → request.orderReference = order →
      (system.db.orderCredit order).IsReturned

theorem answered_initial (catalogue : CreditCatalogue) (order : OrderNumber) :
    (initial catalogue).Answered order where
  decided := List.forall_mem_nil _
  invoiced := List.forall_mem_nil _
  returned := List.forall_mem_nil _

/-- What one answer says of the order, its credit being as it is. -/
structure Tells (order : OrderNumber) (credit : OrderCredit) (answer : BillingAnswer) :
    Prop where
  decided : ∀ request reply, answer.request = .creditHold request →
    request.orderReference = order → answer.result = .ok reply → credit.IsDecided
  invoiced : ∀ request reply, answer.request = .invoiceIssue request →
    request.orderReference = order → answer.result = .ok reply → credit.invoices ≠ []
  returned : ∀ request, answer.request = .creditRelease request →
    request.orderReference = order → credit.IsReturned

theorem answered_iff {order : OrderNumber} {system : BillingSystem} :
    system.Answered order ↔
      ∀ answer ∈ system.answers, Tells order (system.db.orderCredit order) answer := by
  constructor
  · rintro ⟨decided, invoiced, returned⟩ answer answerMem
    exact ⟨decided answer answerMem, invoiced answer answerMem, returned answer answerMem⟩
  · intro tells
    exact ⟨fun answer answerMem => (tells answer answerMem).decided,
      fun answer answerMem => (tells answer answerMem).invoiced,
      fun answer answerMem => (tells answer answerMem).returned⟩

/-- What an answer says stays true. -/
theorem Tells.move {order : OrderNumber} {credit credit' : OrderCredit} {call : BillingCall}
    {answer : BillingAnswer} (tells : Tells order credit answer)
    (moved : credit.Move call credit') : Tells order credit' answer where
  decided request reply isHold ofOrder isOk :=
    (tells.decided request reply isHold ofOrder isOk).move moved
  invoiced request reply isIssue ofOrder isOk :=
    OrderCredit.invoices_ne_nil_of_move (tells.invoiced request reply isIssue ofOrder isOk)
      moved
  returned request isRelease ofOrder := (tells.returned request isRelease ofOrder).move moved

/-- No release of the order is asked before it is held, nor of another line than
its hold is on. -/
def ReturnsHeld (hold : CreditHoldRequest) (system : BillingSystem)
    (request : BillingRequest) : Prop :=
  ∀ release, request = .creditRelease release →
    release.orderReference = hold.orderReference →
      (release.retailerCode = hold.retailerCode ∧
        release.companyCode = hold.companyCode) ∧
        (system.db.orderCredit hold.orderReference).HasHold

section Releases

variable {hold : CreditHoldRequest} {system : BillingSystem}
  (accounted : system.Accounted hold) (nonneg : 0 ≤ hold.amount.amount)
  {release : CreditReleaseRequest} (ofOrder : release.orderReference = hold.orderReference)
  (asked : ReturnsHeld hold system (.creditRelease release))
include accounted nonneg ofOrder asked

/-- A release of the order's hold finds its line, with all the order's rows. -/
theorem line_of_release :
    ∃ line, system.db.findCredit release.retailerCode release.companyCode =
        some line ∧
      system.db.itemsOf line.id release.orderReference =
        (system.db.orderCredit hold.orderReference).items ∧
        0 ≤ (system.db.orderCredit hold.orderReference).exposure := by
  rcases asked release rfl ofOrder with ⟨⟨retailer, company⟩, hasHold⟩
  rcases hasHold with ⟨row, rowMem, _⟩
  rcases accounted.onLine row rowMem with ⟨line, found, _⟩
  refine ⟨line, by rw [retailer, company, found], ?_, ?_⟩
  · rw [ofOrder]
    exact itemsOf_eq accounted.onLine found
  · rcases accounted.consistent with ⟨phase, inPhase⟩
    rw [inPhase.exposure_eq]
    unfold OrderCredit.exposureOf
    split <;> omega

/-- Such a release succeeds. -/
theorem release_not_refused {drawn : Bool} {error : BillingError} :
    transaction system.db drawn (.creditRelease release) ≠ some (.error error) := by
  intro refused
  rcases line_of_release accounted nonneg ofOrder asked with
    ⟨line, found, items, exposed⟩
  have stored := (findCredit_eq_some found).1
  have exposure : 0 ≤ exposureOfRows
      (system.db.itemsOf line.id release.orderReference) := by
    rw [items]
    exact exposed
  rcases releaseCredit_isOk found (accounted.sound.limits line stored)
    (accounted.sound.within line stored) exposure with ⟨value, isOk⟩
  rw [transaction, isOk] at refused
  cases refused

/-- And leaves nothing tied up. -/
theorem isReturned_of_release {drawn : Bool} {db : BillingDb} {reply : BillingReply}
    (result : transaction system.db drawn (.creditRelease release) =
      some (.ok (db, reply))) :
    (db.orderCredit hold.orderReference).IsReturned := by
  have hasHold := (asked release rfl ofOrder).2
  rcases line_of_release accounted nonneg ofOrder asked with
    ⟨line, found, items, _⟩
  rcases releaseCredit_effect (Option.some.inj result) with
    ⟨other, rows, facts, count, otherFound, effect, rfl⟩
  cases Option.some.inj (found.symm.trans otherFound)
  rcases effect.ofOrder with ⟨rowsOf, factsOf⟩
  rw [ofOrder] at rowsOf factsOf
  rw [orderCredit_posted system.db count rowsOf factsOf]
  refine ⟨hasHold.posted rows facts, ?_⟩
  have exposure : exposureOfRows (system.db.itemsOf line.id release.orderReference) =
      (system.db.orderCredit hold.orderReference).exposure := by
    rw [items]
    rfl
  cases effect with
  | nothing none =>
      rw [exposure] at none
      simpa [OrderCredit.exposure, OrderCredit.posted] using none
  | released payload some =>
      rw [exposure]
      simp [OrderCredit.exposure, OrderCredit.posted, exposureOfRows, ledgerRow,
        exposureOfRow]

end Releases

/-- Every action keeps what the answers say, where a release is asked of a hold
and on its line only. -/
theorem Answered.step {hold : CreditHoldRequest} {system system' : BillingSystem}
    {action : BillingAction} (answered : system.Answered hold.orderReference)
    (accounted : system.Accounted hold) (nonneg : 0 ≤ hold.amount.amount)
    (asked : ∀ call ∈ system.calls, ReturnsHeld hold system call.request)
    (stepped : BillingSystem.step system action = some system') :
    system'.Answered hold.orderReference := by
  rw [answered_iff] at answered ⊢
  cases step_change stepped with
  | received | resolved | aborted => exact answered
  | alreadyInvoiced request existing found =>
      refine List.forall_mem_append.mpr ⟨answered, List.forall_mem_singleton.mpr ⟨?_, ?_, ?_⟩⟩
      · rintro hold' reply ⟨⟩
      · rintro issue reply ⟨⟩ ofOrder _
        have isFound := List.find?_some found
        have stored : existing ∈ (system.db.orderCredit hold.orderReference).invoices :=
          List.mem_filter.mpr ⟨List.mem_of_find?_eq_some found,
            decide_eq_true ((of_decide_eq_true isFound).trans ofOrder)⟩
        exact List.ne_nil_of_mem stored
      · rintro release ⟨⟩
  | alreadyRecorded request | unknownInvoice _ request =>
      refine List.forall_mem_append.mpr ⟨answered, List.forall_mem_singleton.mpr ⟨?_, ?_, ?_⟩⟩
      · rintro hold' reply ⟨⟩
      · rintro issue reply ⟨⟩
      · rintro release ⟨⟩
  | refused index drawn call error found refused =>
      have own := asked call (List.mem_of_getElem? found)
      refine List.forall_mem_append.mpr ⟨answered, List.forall_mem_singleton.mpr ⟨?_, ?_, ?_⟩⟩
      · rintro hold' reply _ _ ⟨⟩
      · rintro issue reply _ _ ⟨⟩
      · intro release isRelease ofOrder
        change call.request = .creditRelease release at isRelease
        cases call with
        | creditRelease released =>
            cases isRelease
            exact absurd refused (release_not_refused accounted nonneg ofOrder own)
        | creditHold | invoiceIssue | paymentLooked | paymentRegister => cases isRelease
  | committed index drawn call db reply found result =>
      have callMem := List.mem_of_getElem? found
      have own := asked call callMem
      have transacted := orderCredit_transaction accounted callMem result
      change ∀ answer ∈ system.answers ++ [⟨call.request, .ok reply⟩],
        Tells hold.orderReference (db.orderCredit hold.orderReference) answer
      refine List.forall_mem_append.mpr ⟨?_, List.forall_mem_singleton.mpr ⟨?_, ?_, ?_⟩⟩
      · intro answer answerMem
        rcases transacted with ⟨_, same⟩ | ⟨_, moved⟩
        · rw [same]
          exact answered answer answerMem
        · exact (answered answer answerMem).move moved
      · intro request _ isHold ofOrder _
        change call.request = .creditHold request at isHold
        cases call with
        | creditHold held =>
            cases isHold
            rcases transacted with ⟨ofOther, _⟩ | ⟨_, moved⟩
            · exact absurd (congrArg some ofOrder) ofOther
            · exact OrderCredit.isDecided_of_hold moved
        | creditRelease | invoiceIssue | paymentLooked | paymentRegister => cases isHold
      · intro request _ isIssue ofOrder _
        change call.request = .invoiceIssue request at isIssue
        cases call with
        | invoiceIssue issued =>
            cases isIssue
            rcases transacted with ⟨ofOther, _⟩ | ⟨_, moved⟩
            · exact absurd (congrArg some ofOrder) ofOther
            · exact OrderCredit.invoices_ne_nil_of_issue moved
        | creditHold | creditRelease | paymentLooked | paymentRegister => cases isIssue
      · intro request isRelease ofOrder
        change call.request = .creditRelease request at isRelease
        cases call with
        | creditRelease released =>
            cases isRelease
            exact isReturned_of_release accounted nonneg ofOrder own result
        | creditHold | invoiceIssue | paymentLooked | paymentRegister => cases isRelease

end BillingSystem

end OrderToCash.Billing
