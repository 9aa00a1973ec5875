import OrderToCash.Orders.IgnoredFacts
import OrderToCash.Saga.Course
import OrderToCash.Saga.ReadModel
import OrderToCash.Saga.StrandedStock

/-!
# No needed fact is dropped

In an orderly run in which no operator cancels the order, and a reservation and a
hold have one verdict each, whatever fact of the order is handled finds a step for
the status the order is in.  So the order comes to rest where it has ended, where
it awaits its payment, or where a command of it was rejected.
-/

namespace OrderToCash.Orders

open OrderToCash.Contracts
open OrderToCash.Kernel
open OrderToCash.Transition

/-- The action is an operator's request to cancel the order. -/
def OrdersAction.Cancels (order : OrderNumber) : OrdersAction → Prop
  | .readForCancel other _ => other = order
  | _ => False

instance (order : OrderNumber) : ∀ action, Decidable (OrdersAction.Cancels order action)
  | .readForCancel other _ => inferInstanceAs (Decidable (other = order))
  | .place .. | .beginFact .. | .actOnCancel _ | .commit _ | .rollback _ | .markSent ..
  | .markRejected .. | .park .. | .claimDeadLetter _ | .beginFirstPark _ =>
      instDecidableFalse

/-- No operator has asked to cancel the order. -/
structure OrdersSystem.Unasked (order : OrderNumber) (system : OrdersSystem) : Prop where
  calls : ∀ call ∈ system.cancelCalls, call.order ≠ order
  opened : ∀ opened ∈ system.openTransactions, opened.work ≠ .cancelPlaced order
  answers : ∀ answer ∈ system.cancelAnswers, answer.order ≠ order

namespace OrdersSystem

variable {order : OrderNumber} {system system' : OrdersSystem} {action : OrdersAction}

theorem Unasked.initial (order : OrderNumber) : OrdersSystem.initial.Unasked order where
  calls := List.forall_mem_nil _
  opened := List.forall_mem_nil _
  answers := List.forall_mem_nil _

/-- A transaction that opens is no cancel of the order. -/
theorem Unasked.openTransaction (unasked : system.Unasked order) {work : OrdersTransaction}
    (notCancel : work ≠ .cancelPlaced order) :
    (system.openTransaction work).Unasked order where
  calls := unasked.calls
  opened opened openedMem := by
    rcases List.mem_append.mp openedMem with before | new
    · exact unasked.opened opened before
    · rw [List.mem_singleton.mp new]
      exact notCancel
  answers := unasked.answers

theorem Unasked.answer (unasked : system.Unasked order) {other : OrderNumber}
    (differs : other ≠ order) (outcome : CancelOutcome) :
    (system.answer other outcome).Unasked order where
  calls := unasked.calls
  opened := unasked.opened
  answers answer answerMem := by
    rcases List.mem_append.mp answerMem with before | new
    · exact unasked.answers answer before
    · rw [List.mem_singleton.mp new]
      exact differs

theorem Unasked.commits (unasked : system.Unasked order) {opened : OpenTransaction}
    (notCancel : opened.work ≠ .cancelPlaced order)
    (committed : Commits system opened system') : system'.Unasked order := by
  cases committed with
  | handleFact | onFirstPark => exact ⟨unasked.calls, unasked.opened, unasked.answers⟩
  | cancelPlaced other writes outcome isWork =>
      have differs : other ≠ order := by
        rintro rfl
        exact notCancel isWork
      apply Unasked.answer _ differs
      exact ⟨unasked.calls, unasked.opened, unasked.answers⟩

/-- Only a request brings a cancel of the order about. -/
theorem Unasked.step (unasked : system.Unasked order) (notAsked : ¬ action.Cancels order)
    (stepped : OrdersSystem.step system action = some system') : system'.Unasked order := by
  have ⟨calls, opened, answers⟩ := unasked
  have waiting (index : Nat) : ({ system with
      cancelCalls := system.cancelCalls.eraseIdx index } : OrdersSystem).Unasked order :=
    ⟨fun call callMem => calls call (List.mem_of_mem_eraseIdx callMem), opened, answers⟩
  have ended (index : Nat) : ({ system with
      openTransactions := system.openTransactions.eraseIdx index } :
        OrdersSystem).Unasked order :=
    ⟨calls, fun other otherMem => opened other (List.mem_of_mem_eraseIdx otherMem), answers⟩
  cases moves_of_step stepped with
  | place | markSent | markRejected | park | alreadyClaimed | claimDeadLetter =>
      exact ⟨calls, opened, answers⟩
  | beginFact => exact unasked.openTransaction (by simp)
  | readForCancel other note found =>
      refine ⟨fun call callMem => ?_, opened, answers⟩
      rcases List.mem_append.mp callMem with before | new
      · exact calls call before
      · rw [List.mem_singleton.mp new]
        exact notAsked
  | notFound index call found =>
      exact (waiting index).answer (calls call (List.mem_of_getElem? found)) _
  | beginStockRelease index call _ _ found =>
      apply Unasked.answer _ (calls call (List.mem_of_getElem? found))
      exact ⟨(waiting index).calls, opened, answers⟩
  | cancelInTransaction index call found =>
      have differs := calls call (List.mem_of_getElem? found)
      exact (waiting index).openTransaction (by simpa using differs)
  | commit index transaction _ found committed =>
      exact (ended index).commits (opened transaction (List.mem_of_getElem? found)) committed
  | rollback index => exact ended index
  | beginFirstPark index =>
      have rest : ({ system with
          firstParks := system.firstParks.eraseIdx index } : OrdersSystem).Unasked order :=
        ⟨calls, opened, answers⟩
      exact rest.openTransaction (by simp)

end OrdersSystem

end OrderToCash.Orders

namespace OrderToCash.Saga

open OrderToCash.Billing
open OrderToCash.Contracts
open OrderToCash.Fulfillment
open OrderToCash.Kernel
open OrderToCash.Log
open OrderToCash.Orders
open OrderToCash.Transition

namespace SagaSystem

/-- The action is an operator's request to cancel the order. -/
def Cancels (order : OrderNumber) : SagaAction → Prop
  | .orders action => action.Cancels order
  | .fulfillment _ | .billing _ => False

instance (order : OrderNumber) : ∀ action, Decidable (Cancels order action)
  | .orders action => inferInstanceAs (Decidable (action.Cancels order))
  | .fulfillment _ | .billing _ => instDecidableFalse

/-- The transactions on the order are serial and its facts in order, no operator
cancels it, and no command of it gets a second verdict. -/
def Undisturbed (order : OrderNumber) : Guard SagaSystem SagaAction :=
  fun system action => Orderly order system action ∧ ¬ Cancels order action ∧
    ∀ after ∈ system.act action, after.OneVerdict order

instance (order : OrderNumber) (system : SagaSystem) (action : SagaAction) :
    Decidable (Undisturbed order system action) :=
  inferInstanceAs (Decidable (_ ∧ _ ∧ ∀ after ∈ system.act action, _))

/-- The order has an invoice that is not paid. -/
def AwaitsPayment (system : SagaSystem) (order : OrderNumber) : Prop :=
  ∃ invoice ∈ system.billing.db.invoices,
    invoice.orderReference = order ∧ invoice.status = .issued

/-- A command of the order was rejected. -/
def HasRejected (system : SagaSystem) (order : OrderNumber) : Prop :=
  ∃ kind row, system.orders.db.sagaCommands order kind = some row ∧ row.status = .rejected

/-- Whatever fact of the order is being handled for the first time finds a step for
the status the order is in, none was ever recorded as ignored, and the order rests
nowhere on its way. -/
structure NothingDropped (order : OrderNumber) (system : SagaSystem) : Prop where
  finds : ∀ opened ∈ system.orders.openTransactions, ∀ envelope sourceTopic,
    opened.work = .handleFact envelope sourceTopic → envelope.correlationId = order →
      envelope.eventId ∉ system.orders.db.processedEvents →
        ∃ status step, system.orders.db.statusOf order = some status ∧
          stepForStatus envelope.eventType status = some step
  recorded : ∀ ignored ∈ system.orders.db.ignoredFacts, ignored.correlationId ≠ order
  rests : system.Quiescent order → ∀ status, system.orders.db.statusOf order = some status →
    status = .completed ∨ status = .cancelled ∨
      status = .invoiced ∧ system.AwaitsPayment order ∨ system.HasRejected order

end SagaSystem

variable {order : OrderNumber} {system system' : SagaSystem} {saga : OrderSaga}
  {action : SagaAction} {stock : StockCatalogue} {credits : CreditCatalogue}

/-! ## One verdict, and no cancel -/

/-- Two entries that count are two. -/
theorem two_le_countP {α : Type} {counts : α → Bool} {entries : List α} {first second : Nat}
    {entry other : α} (found : entries[first]? = some entry)
    (otherFound : entries[second]? = some other) (differ : second ≠ first)
    (isCounted : counts entry = true) (otherCounted : counts other = true) :
    2 ≤ entries.countP counts := by
  have erased := countP_eraseIdx found isCounted
  have otherMem : other ∈ entries.eraseIdx first :=
    List.mem_eraseIdx_iff_getElem?.mpr ⟨second, differ, otherFound⟩
  have some := List.countP_pos_iff.mpr ⟨other, otherMem, otherCounted⟩
  omega

/-- A fact that is counted once among those of the order is at one place only. -/
theorem position_eq_of_countP {counts : Fact → Prop} [DecidablePred counts]
    (one : (system.factsOf order).countP (fun fact => counts fact) ≤ 1) {topic : Topic}
    {first second : Nat} {entry other : Fact}
    (found : (system.outbox topic)[first]? = some entry)
    (otherFound : (system.outbox topic)[second]? = some other)
    (ofOrder : entry.orderReference = order) (otherOf : other.orderReference = order)
    (isCounted : counts entry) (otherCounted : counts other) : second = first := by
  by_contra differ
  have two := @two_le_countP _ (fun fact : Fact =>
    decide (counts fact) && decide (fact.orderReference = order)) _ _ _ _ _ found otherFound
    differ (by simp [isCounted, ofOrder]) (by simp [otherCounted, otherOf])
  rw [SagaSystem.factsOf, List.countP_filter, List.countP_append, List.countP_append] at one
  cases topic <;> omega

/-- Verdicts on the reservation, or on the hold. -/
def IsVerdicts (verdicts : List SagaFact) : Prop :=
  verdicts = [.stockReserved, .stockRejected] ∨ verdicts = [.creditApproved, .creditRejected]

/-- A verdict is of the type of its fact. -/
theorem eventType_of_verdict {entry : Fact} {fact : SagaFact}
    (isFact : sagaFact? entry = some fact) :
    (fact ∈ [SagaFact.stockReserved, .stockRejected] →
        entry.eventType = .stockReserved ∨ entry.eventType = .stockRejected) ∧
      (fact ∈ [SagaFact.creditApproved, .creditRejected] →
        entry.eventType = .creditApproved ∨ entry.eventType = .creditRejected) := by
  cases entry <;> cases isFact <;> simp [Fact.eventType]

/-- A verdict is at one place only. -/
theorem position_eq_of_oneVerdict (oneVerdict : system.OneVerdict order)
    {verdicts : List SagaFact} (areVerdicts : IsVerdicts verdicts) {fact other : SagaFact}
    (isVerdict : fact ∈ verdicts) (otherIs : other ∈ verdicts) {topic : Topic}
    {first second : Nat} (isAt : (sagaReading order).At (system.outbox topic) fact first)
    (otherAt : (sagaReading order).At (system.outbox topic) other second) :
    second = first := by
  rcases isAt with ⟨entry, found, reads⟩
  rcases otherAt with ⟨otherEntry, otherFound, otherReads⟩
  rcases read_eq_some.mp reads with ⟨ofOrder, isFact⟩
  rcases read_eq_some.mp otherReads with ⟨otherOf, otherFact⟩
  rcases areVerdicts with rfl | rfl
  · exact position_eq_of_countP oneVerdict.1 found otherFound ofOrder otherOf
      ((eventType_of_verdict isFact).1 isVerdict)
      ((eventType_of_verdict otherFact).1 otherIs)
  · exact position_eq_of_countP oneVerdict.2 found otherFound ofOrder otherOf
      ((eventType_of_verdict isFact).2 isVerdict)
      ((eventType_of_verdict otherFact).2 otherIs)

theorem Represents.exists_at (represents : Represents order system saga) {fact : SagaFact}
    (emitted : saga.emitted fact) :
    ∃ position, (sagaReading order).At (system.outbox fact.topic) fact position := by
  rcases (represents.orders.delivery.emitted_iff fact).mp emitted with ⟨entry, entryMem, reads⟩
  rcases List.getElem?_of_mem entryMem with ⟨position, found⟩
  exact ⟨position, entry, found, reads⟩

/-- A command is granted or rejected but not both. -/
theorem Represents.not_emitted_of_verdict (represents : Represents order system saga)
    (oneVerdict : system.OneVerdict order) {granted rejected : SagaFact}
    (areVerdicts : IsVerdicts [granted, rejected])
    (sameTopic : rejected.topic = granted.topic) (differ : granted ≠ rejected)
    (emitted : saga.emitted granted) : ¬ saga.emitted rejected := by
  intro otherEmitted
  rcases represents.exists_at emitted with ⟨first, isAt⟩
  rcases represents.exists_at otherEmitted with ⟨second, otherAt⟩
  rw [sameTopic] at otherAt
  cases position_eq_of_oneVerdict oneVerdict areVerdicts (by simp) (by simp) isAt otherAt
  rcases isAt with ⟨entry, found, reads⟩
  rcases otherAt with ⟨_, otherFound, otherReads⟩
  cases found.symm.trans otherFound
  exact differ (Option.some.inj (reads.symm.trans otherReads))

/-- A fact that is pending is handled for the first time. -/
theorem Represents.not_handled_of_pending (represents : Represents order system saga)
    (oneVerdict : system.OneVerdict order) {fact : SagaFact}
    (waits : saga.pending fact) : ¬ saga.handled fact := by
  by_cases repeatable : Repeatable fact
  · intro isHandled
    have verdicts : ∃ verdicts, IsVerdicts verdicts ∧ fact ∈ verdicts := by
      rcases repeatable with rfl | rfl
      · exact ⟨_, Or.inl rfl, by simp⟩
      · exact ⟨_, Or.inr rfl, by simp⟩
    rcases verdicts with ⟨verdicts, areVerdicts, isVerdict⟩
    have inbox := represents.orders.delivery fact.topic
    rcases (inbox.waiting_iff fact rfl).mp waits with ⟨first, isAt, unprocessed⟩
    rcases (inbox.done_iff fact rfl).mp isHandled with ⟨second, otherAt, isProcessed⟩
    cases position_eq_of_oneVerdict oneVerdict areVerdicts isVerdict isVerdict isAt otherAt
    exact unprocessed isProcessed
  · exact represents.coherent.emissions.once fact repeatable waits

theorem Represents.undisturbed (represents : Represents order system saga)
    (unasked : system.orders.Unasked order)
    (oneVerdict : system.OneVerdict order) (lasts : saga.Lasts)
    (onward : saga.Onward) : saga.Undisturbed where
  lasts := lasts
  onward := onward
  notAgreed := by
    intro agreed
    rcases represents.orders.agreed.mp agreed with ⟨answer, answerMem, ofOrder, _⟩
    exact unasked.answers answer answerMem ofOrder
  oneReservation := represents.not_emitted_of_verdict oneVerdict (Or.inl rfl) rfl (by simp)
  oneHold := represents.not_emitted_of_verdict oneVerdict (Or.inr rfl) rfl (by simp)

theorem unasked_of_reachable
    (reached : Reachable SagaSystem.step (SagaSystem.Undisturbed order)
      (SagaSystem.initial stock credits) system) : system.orders.Unasked order := by
  induction reached with
  | refl => exact .initial order
  | tail path admitted stepped inductionHypothesis =>
      rcases serviceStep_orders stepped with same | ⟨ordersAction, rfl, ordersStepped⟩
      · rw [same]
        exact inductionHypothesis
      · exact inductionHypothesis.step admitted.2.1 ordersStepped

theorem oneVerdict_of_reachable
    (reached : Reachable SagaSystem.step (SagaSystem.Undisturbed order)
      (SagaSystem.initial stock credits) system) : system.OneVerdict order := by
  cases reached with
  | refl => exact ⟨Nat.zero_le 1, Nat.zero_le 1⟩
  | tail path admitted stepped =>
      exact admitted.2.2 _ (SagaSystem.step_eq_some.mp stepped).2

theorem exists_undisturbed
    (reached : Reachable SagaSystem.step (SagaSystem.Undisturbed order)
      (SagaSystem.initial stock credits) system) :
    ∃ saga, Orderly order system saga ∧ saga.Undisturbed := by
  rcases exists_orderly (reached.weaken fun _ _ admitted => admitted.1) with
    ⟨saga, orderly, run⟩
  exact ⟨saga, orderly, orderly.represents.undisturbed (unasked_of_reachable reached)
    (oneVerdict_of_reachable reached) (OrderSaga.lasts_of_reached run)
    (OrderSaga.onward_of_reached run)⟩

/-! ## Every fact finds its step -/

/-- The status a fact is for has a step for it. -/
theorem exists_step {entry : Fact} {fact : SagaFact} (isFact : sagaFact? entry = some fact) :
    ∃ step, stepForStatus entry.eventType (OrderSaga.awaitedIn fact) = some step := by
  cases entry <;> cases isFact <;> exact ⟨_, rfl⟩

theorem Orderly.finds (orderly : Orderly order system saga)
    (undisturbed : saga.Undisturbed) (oneVerdict : system.OneVerdict order)
    {opened : OpenTransaction} (openedMem : opened ∈ system.orders.openTransactions)
    {envelope : Envelope} {sourceTopic : Topic}
    (isWork : opened.work = .handleFact envelope sourceTopic)
    (ofOrder : envelope.correlationId = order)
    (fresh : envelope.eventId ∉ system.orders.db.processedEvents) :
    ∃ status step, system.orders.db.statusOf order = some status ∧
      stepForStatus envelope.eventType status = some step := by
  have represents := orderly.represents
  have ⟨published, notSkipped⟩ :=
    represents.orders.underWay.delivered opened openedMem envelope sourceTopic isWork
  cases isFact : sagaFact? envelope.fact with
  | none => exact absurd (isSkipped_iff.mpr isFact) notSkipped
  | some fact =>
      have waits : saga.pending fact := represents.orders.delivery.pending_of_published
        published (read_eq_some.mpr ⟨ofOrder, isFact⟩) fresh
      have first := represents.not_handled_of_pending oneVerdict waits
      have status := undisturbed.status_eq waits first
        (orderly.inTurn openedMem isWork ofOrder isFact)
      rcases exists_step isFact with ⟨step, isStep⟩
      exact ⟨_, step, represents.status_eq ▸ status, isStep⟩

/-- No fact of the order was ever recorded as ignored. -/
theorem never_ignored
    (reached : Reachable SagaSystem.step (SagaSystem.Undisturbed order)
      (SagaSystem.initial stock credits) system) :
    ∀ ignored ∈ system.orders.db.ignoredFacts, ignored.correlationId ≠ order := by
  induction reached with
  | refl => exact List.forall_mem_nil _
  | tail path admitted stepped inductionHypothesis =>
      intro ignored recorded ofOrder
      rcases serviceStep_orders stepped with same | ⟨ordersAction, rfl, ordersStepped⟩
      · rw [same] at recorded
        exact inductionHypothesis ignored recorded ofOrder
      · cases OrdersSystem.ignored_change ordersStepped recorded with
        | kept before => exact inductionHypothesis ignored before ofOrder
        | recorded index opened envelope sourceTopic work found isWork fresh handled written =>
            rcases exists_undisturbed path with ⟨saga, orderly, undisturbed⟩
            have openedMem := List.mem_of_getElem? found
            rcases ignored_of_handleFact handled written with ⟨sameOrder, noStep⟩
            have ofEnvelope := sameOrder.symm.trans ofOrder
            rcases orderly.finds undisturbed (oneVerdict_of_reachable path) openedMem isWork
              ofEnvelope fresh with ⟨status, step, isStatus, isStep⟩
            -- the transaction still reads what there is
            have current := orderly.serialOn.current opened openedMem
              (by rw [isWork]; exact ofEnvelope)
            have read := congrArg Version.status current
            rw [ofEnvelope] at noStep
            have none := noStep status (read.trans isStatus)
            rw [isStep] at none
            cases none

/-! ## Every command that is at rest was carried out -/

/-- A success is a reply. -/
theorem exists_reply {ε ρ : Type} {code : ε → RpcErrorCode} {result : Except ε ρ}
    (success : isSuccess (rpcOutcome code result) = true) : ∃ reply, result = .ok reply := by
  cases result with
  | ok reply => exact ⟨reply, rfl⟩
  | error error => cases success

section AtRest

variable (represents : Represents order system saga) (reported : Reported order system)
  (quiet : ∀ kind, ∀ row ∈ system.orders.db.sagaCommands order kind, ¬ row.IsOutstanding)
  (noneRejected : ¬ system.HasRejected order)
include represents reported quiet noneRejected

/-- Where no command is outstanding or rejected, one that is owed was answered with
success. -/
theorem Represents.succeeded_of_owed {kind : SagaCommandKind} (owed : saga.owed kind) :
    ∃ payload, payload.order = order ∧ payload.kind = kind ∧
      system.Answered payload isSuccess := by
  rcases represents.row_of_owed owed with ⟨row, stored, ofOrder, isKind⟩
  rcases reported.answered stored (quiet kind row stored) with ⟨ofKind, isReported, answered⟩
  cases status : row.status with
  | sent =>
      rw [status] at isReported
      cases isReported
      exact ⟨row.payload, ofOrder, isKind, answered⟩
  | rejected => exact absurd ⟨kind, row, stored, status⟩ noneRejected
  | pending | parked =>
      rw [status] at isReported
      cases isReported

/-- A reservation that was asked for has its verdict. -/
theorem Represents.reserved_or_rejected (answers : system.fulfillment.Answered order)
    (owed : saga.owed .stockReserve) :
    saga.emitted .stockReserved ∨ saga.emitted .stockRejected := by
  rcases represents.succeeded_of_owed reported quiet noneRejected owed with
    ⟨payload, ofOrder, isKind, answered⟩
  cases payload with
  | stockReserve reserve =>
      have isStock : stockCommand? (.stockReserve reserve) = some (.stockReserve reserve) := rfl
      rcases stockAnswer_of_answered isStock answered with
        ⟨answer, answerMem, request, success⟩
      rcases exists_reply success with ⟨reply, isReply⟩
      rcases answers.decided answer answerMem reserve reply request ofOrder isReply with
        reserved | ⟨fact, listed, isRejection⟩
      · left
        rw [represents.coherent.emissions.reserved, represents.stock.phase]
        exact reserved
      · right
        rcases List.mem_filter.mp listed with ⟨factMem, ofFact⟩
        rw [represents.emitted_iff]
        refine ⟨fact, factMem, of_decide_eq_true ofFact, ?_⟩
        cases fact <;> cases isRejection
        rfl
  | stockRelease | despatchCreate | creditHold | invoiceIssue | creditRelease => cases isKind

/-- A hold that was asked for has its verdict. -/
theorem Represents.held_or_rejected {hold : CreditHoldRequest}
    (holdOf : HoldOf order system.orders.db hold) (answers : system.billing.Answered order)
    (owed : saga.owed .creditHold) :
    saga.emitted .creditApproved ∨ saga.emitted .creditRejected := by
  rcases represents.succeeded_of_owed reported quiet noneRejected owed with
    ⟨payload, ofOrder, isKind, answered⟩
  cases payload with
  | creditHold asked =>
      have isCredit : creditCommand? (.creditHold asked) = some (.creditHold asked) := rfl
      rcases creditAnswer_of_answered isCredit answered with
        ⟨answer, answerMem, request, success⟩
      rcases exists_reply success with ⟨reply, isReply⟩
      rcases answers.decided answer answerMem asked reply request ofOrder isReply with
        held | ⟨fact, listed, isRejection⟩
      · left
        rw [represents.coherent.emissions.approved]
        exact (represents.credit.inPhase holdOf.ofOrder holdOf.asked).hasHold_iff.mp held
      · right
        rcases List.mem_filter.mp listed with ⟨factMem, ofFact⟩
        rw [represents.emitted_iff]
        refine ⟨fact, factMem, of_decide_eq_true ofFact, ?_⟩
        cases fact <;> cases isRejection
        rfl
  | stockReserve | stockRelease | despatchCreate | invoiceIssue | creditRelease => cases isKind

/-- An invoice that was asked for is issued. -/
theorem Represents.issued_of_owed {hold : CreditHoldRequest}
    (holdOf : HoldOf order system.orders.db hold) (answers : system.billing.Answered order)
    (owed : saga.owed .invoiceIssue) : saga.emitted .invoiceIssued := by
  rcases represents.succeeded_of_owed reported quiet noneRejected owed with
    ⟨payload, ofOrder, isKind, answered⟩
  cases payload with
  | invoiceIssue issue =>
      have isCredit : creditCommand? (.invoiceIssue issue) = some (.invoiceIssue issue) := rfl
      rcases creditAnswer_of_answered isCredit answered with
        ⟨answer, answerMem, request, success⟩
      rcases exists_reply success with ⟨reply, isReply⟩
      have some := answers.invoiced answer answerMem issue reply request ofOrder isReply
      have invoices := (represents.credit.inPhase holdOf.ofOrder holdOf.asked).invoices_eq
      rw [represents.coherent.emissions.issued]
      cases phase : saga.credit with
      | invoiced | invoicedReturned | paid | paidReturned => simp
      | unheld | held | returned =>
          rw [phase] at invoices
          exact absurd (List.map_eq_nil_iff.mp invoices) some
  | stockReserve | stockRelease | despatchCreate | creditHold | creditRelease => cases isKind

theorem Represents.carriedOut {hold : CreditHoldRequest}
    (holdOf : HoldOf order system.orders.db hold)
    (stockAnswers : system.fulfillment.Answered order)
    (creditAnswers : system.billing.Answered order) : saga.CarriedOut where
  reserved := represents.reserved_or_rejected reported quiet noneRejected stockAnswers
  settled _ ends owed := represents.not_reserved reported stockAnswers quiet ends owed
  held := represents.held_or_rejected reported quiet noneRejected holdOf creditAnswers
  issued := represents.issued_of_owed reported quiet noneRejected holdOf creditAnswers

end AtRest

/-- An order whose credit is invoiced awaits its payment. -/
theorem Represents.awaitsPayment (represents : Represents order system saga)
    {hold : CreditHoldRequest} (holdOf : HoldOf order system.orders.db hold)
    (invoiced : saga.credit = .invoiced) : system.AwaitsPayment order := by
  have invoices := (represents.credit.inPhase holdOf.ofOrder holdOf.asked).invoices_eq
  rw [invoiced] at invoices
  have listed : InvoiceStatus.issued ∈
      (system.billing.db.orderCredit order).invoices.map InvoiceRow.status := by
    rw [invoices]
    exact List.mem_singleton_self _
  rcases List.mem_map.mp listed with ⟨invoice, isListed, isIssued⟩
  rcases List.mem_filter.mp isListed with ⟨invoiceMem, ofOrder⟩
  exact ⟨invoice, invoiceMem, of_decide_eq_true ofOrder, isIssued⟩

/-- In every orderly run in which no operator cancels the order, and no command of it
gets a second verdict, nothing of the order is dropped. -/
theorem nothing_dropped
    (reached : Reachable SagaSystem.step (SagaSystem.Undisturbed order)
      (SagaSystem.initial stock credits) system) : SagaSystem.NothingDropped order system := by
  rcases exists_undisturbed reached with ⟨saga, orderly, undisturbed⟩
  have represents := orderly.represents
  have oneVerdict := oneVerdict_of_reachable reached
  constructor
  · intro opened openedMem envelope sourceTopic isWork ofOrder fresh
    exact orderly.finds undisturbed oneVerdict openedMem isWork ofOrder fresh
  · exact never_ignored reached
  · intro quiescent status isStatus
    by_cases rejected : system.HasRejected order
    · exact Or.inr (Or.inr (Or.inr rejected))
    · rcases attended_of_reachable reached with ⟨reported, stockAnswers⟩
      have creditAnswers : system.billing.Answered order := creditAnswered_of_reachable reached
      rcases exists_holdOf represents reached with ⟨hold, holdOf⟩
      have carriedOut := represents.carriedOut reported quiescent.commands rejected holdOf
        stockAnswers creditAnswers
      have current : saga.current.status = some status := represents.status_eq.trans isStatus
      rcases undisturbed.rests carriedOut (represents.not_pending quiescent.facts) current with
        completed | cancelled | ⟨invoiced, unpaid⟩
      · exact Or.inl completed
      · exact Or.inr (Or.inl cancelled)
      · exact Or.inr (Or.inr (Or.inl ⟨invoiced, represents.awaitsPayment holdOf unpaid⟩))

/-- The order is paid before Orders has heard of its invoice. -/
def paidInTheEnd : List (SagaSystem → SagaAction) :=
  [ fun _ => .orders (.place 0 singleLineOrder (singleLineForm 0)),
    SagaSystem.deliver .orders 0,
    fun _ => .orders (.commit 0),
    SagaSystem.dispatch ⟨1⟩ .stockReserve,
    fun _ => .fulfillment (.run 0),
    fun _ => .orders (.markSent ⟨1⟩ .stockReserve),
    SagaSystem.deliver .fulfillment 0,
    fun _ => .orders (.commit 0),
    SagaSystem.dispatch ⟨1⟩ .creditHold,
    fun _ => .billing (.run 0 false),
    fun _ => .orders (.markSent ⟨1⟩ .creditHold),
    SagaSystem.deliver .billing 0,
    fun _ => .orders (.commit 0),
    SagaSystem.dispatch ⟨1⟩ .despatchCreate,
    fun _ => .fulfillment (.locate 0),
    fun _ => .fulfillment (.run 0),
    fun _ => .orders (.markSent ⟨1⟩ .despatchCreate),
    SagaSystem.deliver .fulfillment 1,
    fun _ => .orders (.commit 0),
    SagaSystem.dispatch ⟨1⟩ .invoiceIssue,
    fun _ => .billing (.run 0 false),
    fun _ => .billing (.receive (.paymentRegister
      ⟨.absent, .given 1, ⟨"PAY-0001", "PAY-0001"⟩, ⟨3000, .eur⟩, .robot⟩)),
    fun _ => .billing (.locate 0),
    fun _ => .billing (.run 0 false),
    fun _ => .orders (.markSent ⟨1⟩ .invoiceIssue),
    SagaSystem.deliver .billing 1,
    fun _ => .orders (.commit 0),
    SagaSystem.deliver .billing 2,
    fun _ => .orders (.commit 0),
    SagaSystem.deliver .billing 3,
    fun _ => .orders (.commit 0) ]

theorem nothing_dropped_of_paid :
    ∃ system, Reachable SagaSystem.step (SagaSystem.Undisturbed ⟨1⟩)
        (SagaSystem.initial FulfillmentSystem.twoProducts tenThousandLimit) system ∧
      system.Quiescent ⟨1⟩ ∧ system.orders.db.statusOf ⟨1⟩ = some .completed ∧
        system.orders.db.processedEvents.length = 7 ∧
          SagaSystem.NothingDropped ⟨1⟩ system := by
  have ran : (execute (choosing SagaSystem.step)
      (fun state choose => decide (SagaSystem.Undisturbed ⟨1⟩ state (choose state)))
      (SagaSystem.initial FulfillmentSystem.twoProducts tenThousandLimit)
      paidInTheEnd).any
        (fun system => decide (system.Quiescent ⟨1⟩ ∧
          system.orders.db.statusOf ⟨1⟩ = some .completed ∧
            system.orders.db.processedEvents.length = 7)) = true := by
    decide +kernel
  rcases (Option.any_eq_true _ _).mp ran with ⟨system, executed, holds⟩
  have ⟨quiescent, completed, processed⟩ := of_decide_eq_true holds
  have reached := reachable_of_choices executed
  exact ⟨system, reached, quiescent, completed, processed, nothing_dropped reached⟩

end OrderToCash.Saga
