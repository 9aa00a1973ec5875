import OrderToCash.Saga.Lasting
import OrderToCash.Saga.StrandedStock

/-!
# Accepted cancels are kept

A cancel request that was accepted has cancelled its order, or owes a stock
release.  Where that release comes before a despatch, the facts it leads to are
met by a status that takes them on, up to the cancellation.
-/

namespace OrderToCash.Saga

open OrderToCash.Billing
open OrderToCash.Contracts
open OrderToCash.Fulfillment
open OrderToCash.Kernel
open OrderToCash.Orders
open OrderToCash.Transition

namespace OrderSaga

variable {saga saga' : OrderSaga} {label : Label}

/-- An accepted cancel has cancelled the order or owes a stock release. -/
def KeepsCancel (saga : OrderSaga) : Prop :=
  saga.agreed → saga.current.status = some .cancelled ∨ saga.owed .stockRelease

theorem KeepsCancel.of_same (keeps : saga.KeepsCancel)
    (status : saga.current.status = some .cancelled →
      saga'.current.status = some .cancelled)
    (owed : saga.owed .stockRelease → saga'.owed .stockRelease)
    (agreed : saga'.agreed → saga.agreed) : saga'.KeepsCancel :=
  fun isAgreed => (keeps (agreed isAgreed)).imp status owed

/-- A cancelled order stays cancelled where each fact reads what there is. -/
theorem after_cancelled {fact : SagaFact} {reaction : Reaction}
    (reacted : react saga.current fact = some reaction)
    (isCancelled : saga.current.status = some .cancelled) :
    (after saga.current reaction.saves).status = some .cancelled := by
  cases reacts_of_react reacted with
  | ignored | late => exact isCancelled
  | releasedHeld _ status isStatus held | returned status isStatus held =>
      rw [isCancelled] at isStatus
      cases isStatus
      rcases held with absurdity | absurdity <;> cases absurdity
  | placed isStatus | stockReserved isStatus | stockRejected isStatus | approved isStatus
  | creditRejected isStatus | released _ isStatus | despatched isStatus
  | invoiced isStatus | paid isStatus | completed _ isStatus =>
      rw [isCancelled] at isStatus
      cases isStatus

theorem KeepsCancel.move (keeps : saga.KeepsCancel) (fresh : saga.Fresh label)
    (moved : saga.Move label saga') : saga'.KeepsCancel := by
  cases moved with
  | place unknown =>
      apply keeps.of_same
      · rw [unknown]
        rintro ⟨⟩
      · exact id
      · exact id
  | handle fact read reaction rest waits isPast reacts again =>
      cases fresh read rfl
      apply keeps.of_same
      · rw [carryOut_current]
        exact after_cancelled reacts
      · simp +contextual
      · simp
  | cancel read status isPast isStatus cancellable =>
      cases fresh read rfl
      exact fun _ => Or.inl (by simp [isStatus])
  | firstPark read status isPast isStatus =>
      cases fresh read rfl
      apply keeps.of_same
      · exact (congrArg Version.status (saved_self isStatus)).trans
      · exact id
      · exact id
  | beginRelease => exact fun _ => Or.inr (Or.inl rfl)
  | beginReleaseAgain _ _ _ _ _ owed => exact fun _ => Or.inr owed
  | _ => exact keeps.of_same id id id

theorem keepsCancel_of_reached (reached : Reached Move Orderly initial saga) :
    saga.KeepsCancel := by
  apply reached.invariant fun absurdity : False => absurdity.elim
  intro state label state' keeps orderly moved
  exact KeepsCancel.move keeps orderly.1 moved

/-- Where stock was released and its release handled, the order is cancelled, or
confirmed with its credit release owed. -/
theorem Lasts.status_of_released (lasts : saga.Lasts) {reason : StockReleaseReason}
    (isHandled : saga.handled (.stockReleased reason)) :
    saga.current.status = some .cancelled ∨
      saga.current.status = some .confirmed ∧ saga.owed .creditRelease := by
  have ⟨coherent, advances, _, lasting⟩ := lasts
  have standsFor := (coherent.past _ coherent.current).standsFor
  have known := coherent.known_of_emitted (Or.inr isHandled)
  have isReleased := (coherent.emissions.released reason (Or.inr isHandled)).1
  have notDespatched : ¬ saga.handled .orderDespatched := by
    intro despatched
    rw [coherent.emissions.despatched.mp (Or.inr despatched)] at isReleased
    cases isReleased
  cases isStatus : saga.current.status with
  | none => exact absurd isStatus known
  | some status =>
      cases status with
      | placed =>
          have reserved := coherent.reserved_of_released (Or.inr isHandled)
          exact absurd isStatus (advances.reserved reserved)
      | stockReserved => exact absurd isStatus (advances.released reason isHandled)
      | creditApproved => exact absurd rfl (standsFor _ isStatus).notApproving
      | confirmed => exact Or.inr ⟨rfl, lasting.releasing reason isHandled isStatus⟩
      | cancelled => exact Or.inl rfl
      | despatched | invoiced | paid | completed =>
          exact absurd ((standsFor _ isStatus).despatched (by simp)
            (by simp [OrderStatus.rank])) notDespatched

end OrderSaga

/-- A cancel request of the order was answered as accepted. -/
def SagaSystem.CancelAccepted (system : SagaSystem) (order : OrderNumber) : Prop :=
  ∃ answer ∈ system.orders.cancelAnswers,
    answer.order = order ∧ answer.outcome.IsAccepted

instance (system : SagaSystem) (order : OrderNumber) :
    Decidable (system.CancelAccepted order) :=
  inferInstanceAs (Decidable (∃ answer ∈ _, _ ∧ _))

/-- Once a cancel was accepted the order rests cancelled or despatched, and nowhere
else with its stock released. -/
structure SagaSystem.CancelKept (system : SagaSystem) (order : OrderNumber) : Prop where
  ended : system.CancelAccepted order → system.Quiescent order →
    system.orders.db.statusOf order = some .cancelled ∨
      ∃ despatch ∈ system.fulfillment.db.despatches, despatch.orderReference = order
  released : system.CancelAccepted order → system.Quiescent order →
    ∀ status, system.orders.db.statusOf order = some status →
      OrderSaga.ReleasesFirst status →
        ∀ row ∈ system.fulfillment.db.reservationsOf order,
          row.reservation.status ≠ .released

variable {order : OrderNumber} {system : SagaSystem} {saga : OrderSaga}

/-- An order whose stock is consumed has a despatch advice. -/
theorem Represents.exists_despatch (represents : Represents order system saga)
    (consumed : saga.stock = some .consumed) :
    ∃ despatch ∈ system.fulfillment.db.despatches, despatch.orderReference = order := by
  rcases exists_reserve order system.orders.db with ⟨companyCode, lines, compatible⟩
  have arbitrated := represents.stock.arbitrated companyCode lines compatible
  have leftBehind := congrArg OrderStock.Traces.despatchRows
    arbitrated.consistent.leftBehind
  rw [← represents.stock.phase, consumed] at leftBehind
  have some : 0 < (system.fulfillment.db.orderStock order).despatches.length := by
    change (system.fulfillment.db.orderStock order).despatches.length = 1 at leftBehind
    omega
  rcases List.exists_mem_of_length_pos some with ⟨despatch, listed⟩
  rcases List.mem_filter.mp listed with ⟨despatchMem, ofOrder⟩
  exact ⟨despatch, despatchMem, of_decide_eq_true ofOrder⟩

section AtRest

variable {hold : CreditHoldRequest} (represents : Represents order system saga)
  (lasts : saga.Lasts) (reported : Reported order system)
  (returned : system.billing.Answered order) (quiescent : system.Quiescent order)
  (holdOf : HoldOf order system.orders.db hold) (positive : 0 < hold.amount.amount)
include represents lasts reported returned quiescent holdOf positive

/-- At rest a positive credit that was to be released has been. -/
theorem Represents.returned_of_owed (owed : saga.owed .creditRelease)
    (isConfirmed : saga.current.status = some .confirmed) :
    saga.handled (.creditReleased .orderCancelled) := by
  have ⟨coherent, advances, _, _⟩ := lasts
  have emissions := coherent.emissions
  have inPhase := represents.credit.inPhase holdOf.ofOrder holdOf.asked
  rcases represents.isReturned reported returned quiescent.commands owed with
    ⟨hasHold, none⟩
  rw [inPhase.hasHold_iff] at hasHold
  rw [inPhase.exposure_eq] at none
  have notIssued : ¬ saga.emitted .invoiceIssued := fun issued =>
    advances.despatched (coherent.commands.invoiceIssue (coherent.commands.issued issued))
      isConfirmed
  rw [emissions.issued] at notIssued
  have emitted : saga.emitted (.creditReleased .orderCancelled) := by
    rw [emissions.returned]
    cases phase : saga.credit with
    | unheld => exact absurd phase hasHold
    | held =>
        rw [phase] at none
        exact absurd none (Int.ne_of_gt positive)
    | returned => exact Or.inl rfl
    | invoiced | invoicedReturned | paid | paidReturned => simp [phase] at notIssued
  exact emitted.resolve_left (represents.not_pending quiescent.facts _)

/-- At rest an order whose stock was released is cancelled. -/
theorem Represents.cancelled_of_released (released : saga.stock = some .released) :
    saga.current.status = some .cancelled := by
  rcases lasts.coherent.emissions.isReleased released with ⟨reason, emitted⟩
  have isHandled := emitted.resolve_left (represents.not_pending quiescent.facts _)
  rcases lasts.status_of_released isHandled with isCancelled | ⟨isConfirmed, owed⟩
  · exact isCancelled
  · have isReturned := represents.returned_of_owed lasts reported returned quiescent
      holdOf positive owed isConfirmed
    exact absurd isConfirmed (lasts.lasting.returned isReturned)

end AtRest

/-- In every orderly run the accepted cancel of an order with something to pay is
kept. -/
theorem cancel_kept {stock : StockCatalogue} {credits : CreditCatalogue}
    (reached : Reachable SagaSystem.step (SagaSystem.Orderly order)
      (SagaSystem.initial stock credits) system)
    (positive : ∀ props ∈ system.orders.db.orders order, 0 < props.totalAmount.amount) :
    system.CancelKept order := by
  rcases exists_orderly reached with ⟨saga, orderly, run⟩
  have represents := orderly.represents
  have lasts := OrderSaga.lasts_of_reached run
  have coherent := lasts.coherent
  rcases attended_of_reachable reached with ⟨reported, answered⟩
  have returned : system.billing.Answered order := creditAnswered_of_reachable reached
  rcases exists_reserve order system.orders.db with ⟨companyCode, lines, compatible⟩
  have arbitrated := represents.stock.arbitrated companyCode lines compatible
  have isCancelled : system.Quiescent order → saga.stock = some .released →
      saga.current.status = some .cancelled := by
    intro quiescent released
    have reserved : saga.emitted .stockReserved := by
      rw [coherent.emissions.reserved, released]
      simp
    have known := coherent.known_of_emitted reserved
    rw [represents.status_eq] at known
    have placed : system.orders.db.orders order ≠ none := by
      intro absent
      simp [OrdersDb.statusOf, absent] at known
    rcases exists_terms reached placed with ⟨terms, keeps⟩
    have amount : 0 < (holdRequestOf terms).amount.amount := by
      rcases Option.ne_none_iff_exists'.mp placed with ⟨row, stored⟩
      have ofRow := keeps.row row stored
      rw [← ofRow]
      exact positive row stored
    exact represents.cancelled_of_released lasts reported returned quiescent keeps.holdOf
      amount released
  constructor
  · rintro ⟨answer, answerMem, ofOrder, isAccepted⟩ quiescent
    have agreed := represents.orders.agreed.mpr ⟨answer, answerMem, ofOrder, isAccepted⟩
    rw [← represents.status_eq]
    rcases OrderSaga.keepsCancel_of_reached run agreed with done | owed
    · exact Or.inl done
    · have notReserved := represents.not_reserved reported answered quiescent.commands
        (Or.inl rfl) owed
      have reserved := coherent.reserved_of_owed (Or.inl rfl) owed
      have some := coherent.emissions.reserved.mp (Or.inr reserved)
      cases phase : saga.stock with
      | none => exact absurd phase some
      | some status =>
          cases status with
          | reserved => exact absurd phase notReserved
          | released => exact Or.inl (isCancelled quiescent phase)
          | consumed => exact Or.inr (represents.exists_despatch phase)
  · rintro _ quiescent status isStatus releases row rowMem isReleased
    have phase : saga.stock = some .released := by
      rw [represents.stock.phase, ← isReleased]
      exact arbitrated.consistent.uniform row rowMem
    have atRest := isCancelled quiescent phase
    rw [represents.status_eq, isStatus] at atRest
    cases atRest
    rcases releases with absurdity | absurdity | absurdity <;> cases absurdity

theorem cancel_kept_once_reserved :
    ∃ system, Reachable SagaSystem.step (SagaSystem.Orderly ⟨1⟩)
        (SagaSystem.initial FulfillmentSystem.twoProducts tenThousandLimit) system ∧
      system.CancelAccepted ⟨1⟩ ∧ system.Quiescent ⟨1⟩ ∧ system.CancelKept ⟨1⟩ := by
  have ran : (execute (choosing SagaSystem.step)
      (fun state choose => decide (SagaSystem.Orderly ⟨1⟩ state (choose state)))
      (SagaSystem.initial FulfillmentSystem.twoProducts tenThousandLimit)
      cancelledOnceReserved).any
        (fun system => decide (system.CancelAccepted ⟨1⟩ ∧ system.Quiescent ⟨1⟩ ∧
          ∀ props ∈ system.orders.db.orders ⟨1⟩, 0 < props.totalAmount.amount)) = true := by
    decide +kernel
  rcases (Option.any_eq_true _ _).mp ran with ⟨system, executed, holds⟩
  have ⟨accepted, quiescent, positive⟩ := of_decide_eq_true holds
  have reached := reachable_of_choices executed
  exact ⟨system, reached, accepted, quiescent, cancel_kept reached positive⟩

end OrderToCash.Saga
