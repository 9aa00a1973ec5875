import OrderToCash.Saga.CreditAttendance
import OrderToCash.Saga.Shipment

/-!
# Facts that were handled

Where every transaction reads what there is and facts are handled in turn, a
fact that was handled has moved its order on, or the command it asks for is
owed.
-/

namespace OrderToCash.Saga

open OrderToCash.Billing
open OrderToCash.Contracts
open OrderToCash.Fulfillment
open OrderToCash.Kernel
open OrderToCash.Orders
open OrderToCash.Transition

namespace OrderSaga

variable {saga saga' : OrderSaga} {label : Label}

/-- What an ignored fact finds, the table ignores it in. -/
theorem stepReaction_of_ignored {read : Version} {fact : SagaFact} {status : OrderStatus}
    (ignored : react read fact = some .ignored) (isStatus : read.status = some status) :
    stepReaction fact status = some .ignored := by
  simp only [react, isStatus] at ignored
  split at ignored
  · cases ignored
  · exact ignored

/-- A fact that was handled has moved the order on, or its command is owed. -/
structure Lasting (saga : OrderSaga) : Prop where
  placing : saga.handled .orderPlaced → saga.current.status = some .placed →
    saga.owed .stockReserve
  stockRejected : saga.handled .stockRejected → saga.current.status ≠ some .placed
  rejecting : saga.handled .creditRejected → saga.current.status = some .stockReserved →
    saga.owed .stockRelease
  approving : saga.handled .creditApproved → saga.current.status = some .stockReserved →
    saga.owed .creditRelease
  releasing : ∀ reason, saga.handled (.stockReleased reason) →
    saga.current.status = some .confirmed → saga.owed .creditRelease
  returned : saga.handled (.creditReleased .orderCancelled) →
    saga.current.status ≠ some .confirmed
  completing : ∀ reason, saga.handled (.creditReleased reason) →
    saga.current.status ≠ some .paid
  paidFirst : saga.handled (.creditReleased .invoicePaid) → saga.handled .paymentReceived

theorem Lasting.initial : initial.Lasting := by
  constructor <;> simp [OrderSaga.initial, unplaced]

theorem Lasting.of_same (lasting : saga.Lasting)
    (status : saga'.current.status = saga.current.status)
    (owed : ∀ kind, saga.owed kind → saga'.owed kind)
    (handled : saga'.handled = saga.handled) : saga'.Lasting := by
  constructor
  all_goals simp only [status, handled]
  · exact fun isHandled isPlaced => owed _ (lasting.placing isHandled isPlaced)
  · exact lasting.stockRejected
  · exact fun isHandled isReserved => owed _ (lasting.rejecting isHandled isReserved)
  · exact fun isHandled isReserved => owed _ (lasting.approving isHandled isReserved)
  · exact fun reason isHandled isConfirmed =>
      owed _ (lasting.releasing reason isHandled isConfirmed)
  · exact lasting.returned
  · exact lasting.completing
  · exact lasting.paidFirst

/-- The credit of a paid order is given back after its payment was handled. -/
theorem received_of_paidFor (coherent : saga.Coherent)
    (waits : saga.pending (.creditReleased .invoicePaid))
    (inTurn : ¬ saga.pending .paymentReceived) : saga.handled .paymentReceived := by
  have isPaid := coherent.emissions.paidFor.mp (Or.inl waits)
  have received := coherent.emissions.received.mpr (Or.inl isPaid)
  exact received.resolve_left inTurn

/-- A fact that is ignored finds the order where its kind moves nothing. -/
theorem Lasting.ignored (lasting : saga.Lasting) {fact : SagaFact}
    (isPaidFirst : fact = .creditReleased .invoicePaid →
      saga.handled .paymentReceived)
    (reacted : react saga.current fact = some .ignored) (rest : Prop) :
    ((saga.consume fact rest).carryOut .ignored).Lasting := by
  have unfit := fun {status} => @stepReaction_of_ignored saga.current fact status reacted
  constructor
  all_goals simp only [carryOut_handled, carryOut_owed, carryOut_current, after,
    Reaction.ignored, consume_handled, consume_owed, consume_current, reduceCtorEq,
    false_or]
  · rintro (rfl | before) isPlaced
    · cases unfit isPlaced
    · exact lasting.placing before isPlaced
  · rintro (rfl | before) isPlaced
    · cases unfit isPlaced
    · exact lasting.stockRejected before isPlaced
  · rintro (rfl | before) isReserved
    · cases unfit isReserved
    · exact lasting.rejecting before isReserved
  · rintro (rfl | before) isReserved
    · cases unfit isReserved
    · exact lasting.approving before isReserved
  · rintro reason (rfl | before) isConfirmed
    · cases reason <;> cases unfit isConfirmed
    · exact lasting.releasing reason before isConfirmed
  · rintro (rfl | before) isConfirmed
    · cases unfit isConfirmed
    · exact lasting.returned before isConfirmed
  · rintro reason (rfl | before) isPaid
    · cases reason <;> cases unfit isPaid
    · exact lasting.completing reason before isPaid
  · rintro (rfl | before)
    · exact Or.inr (isPaidFirst rfl)
    · exact Or.inr (lasting.paidFirst before)

theorem Lasting.handle (coherent : saga.Coherent) (advances : saga.Advances)
    (approved : saga.ReturnsApproved) (lasting : saga.Lasting) {fact : SagaFact}
    {reaction : Reaction} (waits : saga.pending fact)
    (inTurn : ∀ earlier, Precedes earlier fact → ¬ saga.pending earlier)
    (reacted : react saga.current fact = some reaction) (rest : Prop) :
    ((saga.consume fact rest).carryOut reaction).Lasting := by
  have ⟨placing, stockRejected, rejecting, approving, releasing, returned, completing,
    paidFirst⟩ := lasting
  have emissions := coherent.emissions
  have commands := coherent.commands
  have standsFor := (coherent.past _ coherent.current).standsFor
  have reservedOfApproved : saga.handled .creditApproved → saga.handled .stockReserved :=
    fun isHandled => coherent.reserved_of_approved (Or.inr isHandled)
  have reservedOfRejected : saga.emitted .creditRejected → saga.handled .stockReserved :=
    fun isRejected => commands.creditHold (commands.creditRejected isRejected)
  have returnedFor : saga.handled (.creditReleased .orderCancelled) →
      saga.owed .creditRelease := fun isHandled => commands.returned (Or.inr isHandled)
  have isPaidFirst : fact = .creditReleased .invoicePaid → saga.handled .paymentReceived := by
    rintro rfl
    exact received_of_paidFor coherent waits (inTurn _ trivial)
  cases reacts_of_react reacted with
  | ignored fact => exact lasting.ignored isPaidFirst reacted rest
  | late isLate =>
      constructor <;> simp [after]
      · exact placing
      · exact stockRejected
      · exact rejecting
      · exact returned
      · exact completing
      · exact paidFirst
  | stockRejected isStatus =>
      constructor <;> simp [after, isStatus, Reaction.cancelled]
      exact paidFirst
  | placed isStatus | creditRejected isStatus | despatched isStatus
  | invoiced isStatus =>
      constructor <;> simp [after, isStatus, Reaction.advanced] <;> grind
  | stockReserved isStatus =>
      have first : ¬ saga.handled .stockReserved := fun isHandled =>
        advances.reserved isHandled isStatus
      have notRejected : ¬ saga.handled .creditRejected := fun isHandled =>
        first (reservedOfRejected (Or.inr isHandled))
      have notApproved : ¬ saga.handled .creditApproved := fun isHandled =>
        first (reservedOfApproved isHandled)
      constructor <;> simp [after, isStatus, Reaction.advanced, notRejected, notApproved]
      exact paidFirst
  | approved isStatus =>
      have notReleased : ∀ reason, ¬ saga.handled (.stockReleased reason) :=
        fun reason isHandled => advances.released reason isHandled isStatus
      have notReturned : ¬ saga.handled (.creditReleased .orderCancelled) :=
        fun isHandled => emissions.once _ (by simp [Repeatable]) waits
          (approved (returnedFor isHandled))
      constructor <;> simp [after, isStatus, Reaction.advanced, notReleased, notReturned]
      exact paidFirst
  | paid isStatus =>
      have despatched := (standsFor _ isStatus).despatched (by simp)
        (by simp [OrderStatus.rank])
      have notReturned : ¬ saga.handled (.creditReleased .orderCancelled) :=
        fun isHandled => coherent.not_returned_of_despatched (Or.inr despatched)
          (Or.inr isHandled)
      have notPaidFor : ¬ saga.handled (.creditReleased .invoicePaid) :=
        fun isHandled => emissions.once _ (by simp [Repeatable]) waits (paidFirst isHandled)
      constructor <;> simp [after, isStatus, Reaction.advanced]
      rintro (_ | _)
      · exact notPaidFor
      · exact notReturned
  | completed reason isStatus =>
      constructor <;> simp [after, isStatus, Reaction.advanced]
      rintro (rfl | before)
      · exact isPaidFirst rfl
      · exact paidFirst before
  | released reason isStatus =>
      constructor <;> simp [after, isStatus, Reaction.cancelled]
      exact paidFirst
  | releasedHeld reason status isStatus held =>
      constructor <;> simp [after, isStatus, Reaction.advanced] <;> grind
  | returned status isStatus held =>
      constructor <;> simp [after, isStatus, Reaction.cancelled]
      exact paidFirst

theorem Lasting.move (coherent : saga.Coherent) (advances : saga.Advances)
    (approved : saga.ReturnsApproved) (lasting : saga.Lasting)
    (orderly : saga.Orderly label) (moved : saga.Move label saga') : saga'.Lasting := by
  rcases orderly with ⟨fresh, inTurn⟩
  cases moved with
  | place unknown =>
      have nothing : ∀ fact, ¬ saga.handled fact := fun fact isHandled =>
        coherent.known_of_emitted (Or.inr isHandled) unknown
      constructor <;> simp [nothing]
  | handle fact read reaction rest waits isPast reacts again =>
      cases fresh read rfl
      exact lasting.handle coherent advances approved waits (inTurn fact _ rfl) reacts rest
  | cancel read status isPast isStatus cancellable =>
      cases fresh read rfl
      constructor <;> simp [isStatus]
      exact lasting.paidFirst
  | firstPark read status isPast isStatus =>
      cases fresh read rfl
      exact lasting.of_same (congrArg Version.status (saved_self isStatus)) (fun _ => id) rfl
  | beginRelease => exact lasting.of_same rfl (fun _ => Or.inr) rfl
  | _ =>
      apply lasting.of_same
      · rfl
      · exact fun _ => id
      · rfl

/-- What an orderly run keeps. -/
structure Lasts (saga : OrderSaga) : Prop where
  coherent : saga.Coherent
  advances : saga.Advances
  approved : saga.ReturnsApproved
  lasting : saga.Lasting

theorem Lasts.initial : initial.Lasts where
  coherent := .initial
  advances := .initial
  approved := fun absurdity => absurdity.elim
  lasting := .initial

theorem Lasts.move (lasts : saga.Lasts) (orderly : saga.Orderly label)
    (moved : saga.Move label saga') : saga'.Lasts where
  coherent := lasts.coherent.move moved
  advances := lasts.advances.move lasts.coherent orderly moved
  approved := lasts.approved.move lasts.coherent moved
  lasting := lasts.lasting.move lasts.coherent lasts.advances lasts.approved orderly moved

theorem lasts_of_reached (reached : Reached Move Orderly initial saga) : saga.Lasts := by
  apply reached.invariant .initial
  rintro state label state' lasts orderly moved
  exact lasts.move orderly moved

end OrderSaga

end OrderToCash.Saga
