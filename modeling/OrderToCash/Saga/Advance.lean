import OrderToCash.Saga.Orderly

/-!
# How far an order has come

Where every transaction reads what there is and facts are handled in turn, the
status of an order says which of the facts of its way have been handled: none
is set aside but an approval that finds an accepted cancel.
-/

namespace OrderToCash.Saga

open OrderToCash.Billing
open OrderToCash.Contracts
open OrderToCash.Fulfillment
open OrderToCash.Kernel
open OrderToCash.Orders

namespace OrderSaga

variable {saga saga' : OrderSaga} {label : Label}

/-! ## What was emitted before -/

theorem Coherent.reserved_of_approved (coherent : saga.Coherent)
    (approved : saga.emitted .creditApproved) : saga.handled .stockReserved := by
  apply coherent.commands.creditHold
  apply coherent.commands.held
  exact coherent.emissions.approved.mp approved

theorem Coherent.reserved_of_released (coherent : saga.Coherent)
    {reason : StockReleaseReason} (released : saga.emitted (.stockReleased reason)) :
    saga.handled .stockReserved := by
  have owed := (coherent.emissions.released reason released).2
  cases reason with
  | orderCancelled => exact (coherent.commands.releaseRequested owed).2
  | creditRejected =>
      apply coherent.commands.creditHold
      apply coherent.commands.creditRejected
      exact Or.inr (coherent.commands.releaseRejected owed)

theorem Coherent.owed_of_despatched (coherent : saga.Coherent)
    (despatched : saga.emitted .orderDespatched) : saga.owed .despatchCreate :=
  coherent.commands.consumed (coherent.emissions.despatched.mp despatched)

theorem Coherent.issued_of_received (coherent : saga.Coherent)
    (received : saga.emitted .paymentReceived) : saga.emitted .invoiceIssued := by
  rw [coherent.emissions.received] at received
  rw [coherent.emissions.issued]
  rcases received with isPaid | isPaid
  · exact Or.inr (Or.inr (Or.inl isPaid))
  · exact Or.inr (Or.inr (Or.inr isPaid))

/-! ## What the status says -/

/-- The order has been invoiced and goes on. -/
def IsInvoiced (status : Option OrderStatus) : Prop :=
  status = some .invoiced ∨ status = some .paid ∨ status = some .completed

/-- The facts that were handled show in the status. -/
structure Advances (saga : OrderSaga) : Prop where
  reserved : saga.handled .stockReserved → saga.current.status ≠ some .placed
  approved : saga.handled .creditApproved →
    saga.current.status = some .stockReserved → saga.current.accepted = true
  released : ∀ reason, saga.handled (.stockReleased reason) →
    saga.current.status ≠ some .stockReserved
  despatching : saga.owed .despatchCreate →
    saga.current.status ≠ some .placed ∧ saga.current.status ≠ some .stockReserved
  despatched : saga.handled .orderDespatched → saga.current.status ≠ some .confirmed
  invoicing : saga.owed .invoiceIssue →
    saga.current.status = some .despatched ∨ IsInvoiced saga.current.status
  invoiced : saga.handled .invoiceIssued → IsInvoiced saga.current.status
  paid : saga.handled .paymentReceived →
    saga.current.status = some .paid ∨ saga.current.status = some .completed

theorem Advances.initial : initial.Advances := by
  constructor <;> simp [OrderSaga.initial]

/-- A move that changes neither the status, the facts handled nor the commands. -/
theorem Advances.of_same (advances : saga.Advances)
    (current : saga'.current = saga.current) (owed : saga'.owed = saga.owed)
    (handled : saga'.handled = saga.handled) : saga'.Advances := by
  constructor
  all_goals simp only [current, owed, handled]
  · exact advances.reserved
  · exact advances.approved
  · exact advances.released
  · exact advances.despatching
  · exact advances.despatched
  · exact advances.invoicing
  · exact advances.invoiced
  · exact advances.paid

/-- The status a fact of the order's way is for, unless it has its credit held. -/
def expects : SagaFact → Option OrderStatus
  | .stockReserved => some .placed
  | .creditApproved => some .stockReserved
  | .stockReleased _ => some .stockReserved
  | .orderDespatched => some .confirmed
  | .invoiceIssued => some .despatched
  | .paymentReceived => some .invoiced
  | _ => none

/-- A fact is not ignored in the status it is for. -/
theorem status_ne_of_ignored {read : Version} {fact : SagaFact} {status : OrderStatus}
    (ignored : react read fact = some .ignored) (isFor : expects fact = some status) :
    read.status ≠ some status := by
  intro isStatus
  simp only [react, isStatus] at ignored
  split at ignored
  · cases ignored
  · cases fact with
    | stockReleased reason => cases reason <;> cases isFor <;> cases ignored
    | _ => cases isFor <;> cases ignored

/-- Handling a fact moves the status on, unless it is for another one. -/
theorem Advances.handle (coherent : saga.Coherent) (advances : saga.Advances)
    {fact : SagaFact} {reaction : Reaction} (waits : saga.pending fact)
    (inTurn : ∀ earlier, Precedes earlier fact → ¬ saga.pending earlier)
    (reacted : react saga.current fact = some reaction) (rest : Prop) :
    ((saga.consume fact rest).carryOut reaction).Advances := by
  have ⟨reserved, approved, released, despatching, despatched, invoicing, invoiced, paid⟩ := advances
  have emissions := coherent.emissions
  have commands := coherent.commands
  have first := fun other notRepeatable (isFact : fact = other) =>
    emissions.once other notRepeatable (isFact ▸ waits)
  have approvedLater : saga.handled .creditApproved → saga.handled .stockReserved :=
    fun isHandled => coherent.reserved_of_approved (Or.inr isHandled)
  have releasedLater : ∀ reason, saga.handled (.stockReleased reason) →
      saga.handled .stockReserved :=
    fun reason isHandled => coherent.reserved_of_released (Or.inr isHandled)
  have despatchOwed := coherent.owed_of_despatched
  have ignored := fun isIgnored : reaction = .ignored =>
    fun status => @status_ne_of_ignored saga.current fact status (isIgnored ▸ reacted)
  cases reacts_of_react reacted with
  | stockReserved isStatus =>
      have fresh : ¬ saga.handled .stockReserved := first _ (by simp [Repeatable]) rfl
      constructor <;> simp [after, isStatus, IsInvoiced, Reaction.advanced] <;>
        grind [IsInvoiced, emitted]
  | late isLate =>
      constructor <;> simp [after, IsInvoiced] <;> grind [IsInvoiced, Version.IsLate]
  | ignored fact =>
      have unfit := ignored rfl
      constructor
      all_goals simp only [carryOut_handled, carryOut_owed, carryOut_current, after,
        Reaction.ignored, consume_handled, consume_owed, consume_current, reduceCtorEq,
        false_or]
      · rintro (rfl | before)
        · exact unfit _ rfl
        · exact reserved before
      · rintro (rfl | before) isReserved
        · exact absurd isReserved (unfit _ rfl)
        · exact approved before isReserved
      · rintro reason (rfl | before)
        · exact unfit _ rfl
        · exact released reason before
      · exact despatching
      · rintro (rfl | before)
        · exact unfit _ rfl
        · exact despatched before
      · exact invoicing
      · rintro (rfl | before)
        · exact (invoicing (commands.issued (Or.inl waits))).resolve_left (unfit _ rfl)
        · exact invoiced before
      · rintro (rfl | before)
        · -- the invoice precedes its payment, so it has been handled
          have handledIssue :=
            (coherent.issued_of_received (Or.inl waits)).resolve_left (inTurn _ trivial)
          exact (invoiced handledIssue).resolve_left (unfit _ rfl)
        · exact paid before
  | placed isStatus | stockRejected isStatus | approved isStatus | creditRejected isStatus
  | despatched isStatus | invoiced isStatus | paid isStatus =>
      constructor <;> simp [after, isStatus, IsInvoiced, Reaction.advanced, Reaction.cancelled] <;>
        grind [IsInvoiced, emitted]
  | released _ isStatus | completed _ isStatus =>
      constructor <;> simp [after, isStatus, IsInvoiced, Reaction.advanced, Reaction.cancelled] <;>
        grind [IsInvoiced, emitted]
  | releasedHeld _ _ isStatus held | returned _ isStatus held =>
      constructor <;> simp [after, isStatus, IsInvoiced, Reaction.advanced, Reaction.cancelled] <;>
        grind [IsInvoiced, emitted]

/-- Writing a version back changes nothing. -/
theorem saved_self {version : Version} {status : OrderStatus}
    (isStatus : version.status = some status) :
    saved version status version.reason = version := by
  rcases version with ⟨_, reason, accepted⟩
  cases isStatus
  rfl

/-- An order that can be cancelled has come no further than its confirmation. -/
theorem Advances.cancel (advances : saga.Advances) {status : OrderStatus}
    (isStatus : saga.current.status = some status) (cancellable : status.IsCancellable) :
    ((saga.commit
      (saved saga.current .cancelled (some .operatorCancelled))).accept).Advances := by
  have ⟨reserved, approved, released, despatching, despatched, invoicing, invoiced, paid⟩ := advances
  rcases (OrderStatus.isCancellable_iff _).mp cancellable with rfl | rfl | rfl | rfl
  all_goals constructor <;> simp [isStatus, IsInvoiced] <;> grind [IsInvoiced]

/-- A fresh move in turn keeps the status in step with the facts handled. -/
theorem Advances.move (coherent : saga.Coherent) (advances : saga.Advances)
    (orderly : saga.Orderly label) (moved : saga.Move label saga') : saga'.Advances := by
  rcases orderly with ⟨fresh, inTurn⟩
  cases moved with
  | place unknown =>
      have nothing : ∀ fact, ¬ saga.handled fact := by
        intro fact isHandled
        exact coherent.known_of_emitted (Or.inr isHandled) unknown
      have noCommand : ∀ kind, ¬ saga.owed kind := by
        intro kind owed
        exact coherent.commands.isPlaced kind owed unknown
      constructor <;> simp [nothing, noCommand]
  | handle fact read reaction rest waits isPast reacts again =>
      cases fresh read rfl
      exact advances.handle coherent waits (inTurn fact _ rfl) reacts rest
  | cancel read status isPast isStatus cancellable =>
      cases fresh read rfl
      exact advances.cancel isStatus cancellable
  | firstPark read status isPast isStatus =>
      cases fresh read rfl
      exact advances.of_same (saved_self isStatus) rfl rfl
  | beginRelease read status isPast isStatus releases first =>
      have ⟨reserved, approved, released, despatching, despatched, invoicing, invoiced, paid⟩ := advances
      constructor <;> simp <;> grind
  | _ =>
      apply advances.of_same
      all_goals rfl

theorem advances_of_reached (reached : Transition.Reached Move Orderly initial saga) :
    saga.Coherent ∧ saga.Advances := by
  apply reached.invariant ⟨.initial, .initial⟩
  rintro state label state' ⟨coherent, advances⟩ orderly moved
  exact ⟨coherent.move moved, advances.move coherent orderly moved⟩

end OrderSaga

end OrderToCash.Saga
