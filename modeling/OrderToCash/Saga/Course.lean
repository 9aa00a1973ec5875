import OrderToCash.Saga.Lasting

/-!
# The course of an order no operator cancels

Where a reservation and a hold are granted or rejected but not both, every fact
of the saga is for one status, and finds the order in it.  Once all facts are
handled and all commands carried out, the order has ended, or awaits its payment.
-/

namespace OrderToCash.Saga

open OrderToCash.Billing
open OrderToCash.Contracts
open OrderToCash.Fulfillment
open OrderToCash.Orders
open OrderToCash.Transition

namespace OrderSaga

variable {saga saga' : OrderSaga} {label : Label}

/-! ## What leads on from a status -/

/-- A status that a service leads on from has its command owed, and a cancelled
order has a reason. -/
structure Onward (saga : OrderSaga) : Prop where
  holding : saga.current.status = some .stockReserved → saga.owed .creditHold
  despatching : saga.current.status = some .confirmed → saga.owed .despatchCreate
  invoicing : saga.current.status = some .despatched → saga.owed .invoiceIssue
  reasoned : saga.current.status = some .cancelled → saga.current.reason ≠ none

theorem Onward.initial : initial.Onward := by
  constructor <;> simp [OrderSaga.initial, unplaced]

theorem Onward.of_same (onward : saga.Onward)
    (status : saga'.current.status = saga.current.status)
    (reason : saga'.current.reason = saga.current.reason)
    (owed : ∀ kind, saga.owed kind → saga'.owed kind) : saga'.Onward := by
  constructor
  all_goals simp only [status, reason]
  · exact fun isReserved => owed _ (onward.holding isReserved)
  · exact fun isConfirmed => owed _ (onward.despatching isConfirmed)
  · exact fun isDespatched => owed _ (onward.invoicing isDespatched)
  · exact onward.reasoned

theorem Onward.handle (onward : saga.Onward) {fact : SagaFact} {reaction : Reaction}
    (reacts : Reacts saga.current fact reaction) (rest : Prop) :
    ((saga.consume fact rest).carryOut reaction).Onward := by
  have ⟨holding, despatching, invoicing, reasoned⟩ := onward
  cases reacts with
  | ignored fact =>
      apply onward.of_same
      · rw [carryOut_current]
        rfl
      · rw [carryOut_current]
        rfl
      · exact fun kind owed => (carryOut_owed _ _ _).mpr (Or.inr owed)
  | late isLate =>
      apply onward.of_same
      · rw [carryOut_current]
        rfl
      · rw [carryOut_current]
        rfl
      · exact fun kind owed => (carryOut_owed _ _ _).mpr (Or.inr owed)
  | creditRejected isStatus =>
      constructor <;> simp [after, isStatus, Reaction.advanced]
      exact holding isStatus
  | releasedHeld reason status isStatus held =>
      constructor <;> simp [after, isStatus, Reaction.advanced] <;> grind
  | placed isStatus | stockReserved isStatus | approved isStatus | despatched isStatus
  | invoiced isStatus | paid isStatus | completed _ isStatus =>
      constructor <;> simp [after, isStatus, Reaction.advanced]
  | stockRejected isStatus | released _ isStatus | returned _ isStatus =>
      constructor <;> simp [after, isStatus, Reaction.cancelled]

theorem Onward.move (onward : saga.Onward) (fresh : saga.Fresh label)
    (moved : saga.Move label saga') : saga'.Onward := by
  cases moved with
  | place unknown => constructor <;> simp
  | handle fact read reaction rest waits isPast reacts again =>
      cases fresh read rfl
      exact onward.handle (reacts_of_react reacts) rest
  | cancel read status isPast isStatus cancellable =>
      cases fresh read rfl
      constructor <;> simp [isStatus]
  | firstPark read status isPast isStatus =>
      cases fresh read rfl
      have same := saved_self isStatus
      apply onward.of_same
      · exact congrArg Version.status same
      · exact congrArg Version.reason same
      · exact fun _ => id
  | beginRelease => exact onward.of_same rfl rfl fun _ => Or.inr
  | _ =>
      apply onward.of_same
      · rfl
      · rfl
      · exact fun _ => id

theorem onward_of_reached (reached : Reached Move Orderly initial saga) : saga.Onward := by
  apply reached.invariant .initial
  rintro state label state' onward orderly moved
  exact onward.move orderly.1 moved

/-! ## The status a fact is for -/

/-- No operator has cancelled the order, and no command of it was both granted and
rejected. -/
structure Undisturbed (saga : OrderSaga) : Prop where
  lasts : saga.Lasts
  onward : saga.Onward
  notAgreed : ¬ saga.agreed
  oneReservation : saga.emitted .stockReserved → ¬ saga.emitted .stockRejected
  oneHold : saga.emitted .creditApproved → ¬ saga.emitted .creditRejected

/-- The status a fact is for. -/
def awaitedIn : SagaFact → OrderStatus
  | .orderPlaced | .stockReserved | .stockRejected => .placed
  | .creditApproved | .creditRejected | .stockReleased _ => .stockReserved
  | .orderDespatched => .confirmed
  | .invoiceIssued => .despatched
  | .paymentReceived => .invoiced
  | .creditReleased _ => .paid

namespace Undisturbed

variable (undisturbed : saga.Undisturbed)
include undisturbed

/-- Stock is released for a rejected credit only. -/
theorem creditRejected_of_released {reason : StockReleaseReason}
    (released : saga.emitted (.stockReleased reason)) :
    reason = .creditRejected ∧ saga.handled .creditRejected := by
  have coherent := undisturbed.lasts.coherent
  have owed := (coherent.emissions.released reason released).2
  cases reason with
  | orderCancelled =>
      exact absurd (coherent.commands.releaseRequested owed).1 undisturbed.notAgreed
  | creditRejected => exact ⟨rfl, coherent.commands.releaseRejected owed⟩

/-- No credit is returned. -/
theorem not_returned : ¬ saga.emitted (.creditReleased .orderCancelled) := by
  intro returned
  have commands := undisturbed.lasts.coherent.commands
  rcases commands.returnWanted (commands.returned returned) with agreed | ⟨rejected, approved⟩
  · exact undisturbed.notAgreed agreed
  · exact undisturbed.oneHold (Or.inr approved) (Or.inr rejected)

/-- An order is cancelled for a rejection. -/
theorem rejected_of_cancelled (cancelled : saga.current.status = some .cancelled) :
    saga.handled .stockRejected ∨ saga.handled (.stockReleased .creditRejected) := by
  have coherent := undisturbed.lasts.coherent
  have standsFor := (coherent.past _ coherent.current).standsFor _ cancelled
  cases reason : saga.current.reason with
  | none => exact absurd reason (undisturbed.onward.reasoned cancelled)
  | some isFor =>
      cases isFor with
      | stockRejected => exact Or.inl (standsFor.stockRejected reason)
      | creditRejected => exact Or.inr (standsFor.creditRejected reason)
      | operatorCancelled =>
          rcases standsFor.operatorCancelled reason with agreed | ⟨rejected, approved⟩
          · exact absurd agreed undisturbed.notAgreed
          · exact absurd (Or.inr rejected) (undisturbed.oneHold (Or.inr approved))

/-- An order that has its reservation is cancelled once its stock was released. -/
theorem released_of_cancelled (reserved : saga.emitted .stockReserved)
    (cancelled : saga.current.status = some .cancelled) :
    saga.handled (.stockReleased .creditRejected) := by
  apply (undisturbed.rejected_of_cancelled cancelled).resolve_left
  exact fun rejected => undisturbed.oneReservation reserved (Or.inr rejected)

/-- An order whose credit was approved is not cancelled. -/
theorem not_cancelled_of_approved (approved : saga.emitted .creditApproved) :
    saga.current.status ≠ some .cancelled := by
  intro cancelled
  have reserved := undisturbed.lasts.coherent.reserved_of_approved approved
  have released := undisturbed.released_of_cancelled (Or.inr reserved) cancelled
  have rejected := (undisturbed.creditRejected_of_released (Or.inr released)).2
  exact undisturbed.oneHold approved (Or.inr rejected)

/-- A fact about the reservation finds the order placed. -/
theorem placed_of_unreserved (known : saga.current.status ≠ none)
    (unreserved : ¬ saga.handled .stockReserved)
    (notCancelled : saga.current.status ≠ some .cancelled) :
    saga.current.status = some .placed := by
  have coherent := undisturbed.lasts.coherent
  cases isStatus : saga.current.status with
  | none => exact absurd isStatus known
  | some status =>
      have standsFor := (coherent.past _ coherent.current).standsFor _ isStatus
      cases status with
      | placed => rfl
      | cancelled => exact absurd isStatus notCancelled
      | stockReserved | creditApproved | confirmed | despatched | invoiced | paid
      | completed =>
          exact absurd (standsFor.reserved (by simp) (by simp [OrderStatus.rank])) unreserved

/-- A fact about the credit, or the release for it, finds the stock reserved. -/
theorem stockReserved_of_unapproved (reserved : saga.handled .stockReserved)
    (unapproved : ¬ saga.handled .creditApproved)
    (notCancelled : saga.current.status ≠ some .cancelled) :
    saga.current.status = some .stockReserved := by
  have ⟨coherent, advances, _, _⟩ := undisturbed.lasts
  cases isStatus : saga.current.status with
  | none => exact absurd isStatus (coherent.known_of_emitted (Or.inr reserved))
  | some status =>
      have standsFor := (coherent.past _ coherent.current).standsFor _ isStatus
      cases status with
      | stockReserved => rfl
      | placed => exact absurd isStatus (advances.reserved reserved)
      | creditApproved => exact absurd rfl standsFor.notApproving
      | cancelled => exact absurd isStatus notCancelled
      | confirmed | despatched | invoiced | paid | completed =>
          exact absurd (standsFor.approved (by simp) (by simp [OrderStatus.rank])) unapproved

/-- A despatch finds the order confirmed. -/
theorem confirmed_of_undespatched (despatched : saga.emitted .orderDespatched)
    (first : ¬ saga.handled .orderDespatched) :
    saga.current.status = some .confirmed := by
  have ⟨coherent, advances, _, _⟩ := undisturbed.lasts
  have owed := coherent.owed_of_despatched despatched
  have approved := coherent.commands.despatchCreate owed
  have ⟨notPlaced, notReserved⟩ := advances.despatching owed
  have notCancelled := undisturbed.not_cancelled_of_approved (Or.inr approved)
  cases isStatus : saga.current.status with
  | none => exact absurd isStatus (coherent.known_of_emitted despatched)
  | some status =>
      have standsFor := (coherent.past _ coherent.current).standsFor _ isStatus
      cases status with
      | confirmed => rfl
      | placed => exact absurd isStatus notPlaced
      | stockReserved => exact absurd isStatus notReserved
      | creditApproved => exact absurd rfl standsFor.notApproving
      | cancelled => exact absurd isStatus notCancelled
      | despatched | invoiced | paid | completed =>
          exact absurd (standsFor.despatched (by simp) (by simp [OrderStatus.rank])) first

/-- An invoice finds the order despatched. -/
theorem despatched_of_uninvoiced (issued : saga.emitted .invoiceIssued)
    (first : ¬ saga.handled .invoiceIssued) :
    saga.current.status = some .despatched := by
  have ⟨coherent, advances, _, _⟩ := undisturbed.lasts
  have standsFor := (coherent.past _ coherent.current).standsFor
  rcases advances.invoicing (coherent.commands.issued issued) with
    isStatus | isStatus | isStatus | isStatus
  · exact isStatus
  all_goals
    exact absurd ((standsFor _ isStatus).invoiced (by simp) (by simp [OrderStatus.rank])) first

/-- A payment finds the order invoiced. -/
theorem invoiced_of_unpaid (invoiced : saga.handled .invoiceIssued)
    (first : ¬ saga.handled .paymentReceived) :
    saga.current.status = some .invoiced := by
  have ⟨coherent, advances, _, _⟩ := undisturbed.lasts
  have standsFor := (coherent.past _ coherent.current).standsFor
  rcases advances.invoiced invoiced with isStatus | isStatus | isStatus
  · exact isStatus
  all_goals
    exact absurd ((standsFor _ isStatus).paid (by simp) (by simp [OrderStatus.rank])) first

/-- The credit a payment has freed finds the order paid. -/
theorem paid_of_uncompleted (paid : saga.handled .paymentReceived)
    (first : ¬ saga.handled (.creditReleased .invoicePaid)) :
    saga.current.status = some .paid := by
  have ⟨coherent, advances, _, _⟩ := undisturbed.lasts
  rcases advances.paid paid with isStatus | isStatus
  · exact isStatus
  · have standsFor := (coherent.past _ coherent.current).standsFor _ isStatus
    rcases standsFor.completed rfl with ⟨reason, isHandled⟩
    cases reason with
    | invoicePaid => exact absurd isHandled first
    | orderCancelled => exact absurd (Or.inr isHandled) undisturbed.not_returned

/-- Every fact that is handled in turn and for the first time finds the order in the
status it is for. -/
theorem status_eq {fact : SagaFact} (waits : saga.pending fact)
    (first : ¬ saga.handled fact)
    (inTurn : ∀ earlier, Precedes earlier fact → ¬ saga.pending earlier) :
    saga.current.status = some (awaitedIn fact) := by
  have ⟨coherent, advances, _, _⟩ := undisturbed.lasts
  have ⟨emissions, commands, _, _⟩ := coherent
  have emitted : saga.emitted fact := Or.inl waits
  have known := coherent.known_of_emitted emitted
  cases fact with
  | orderPlaced =>
      -- whatever happened to the order was asked for once its placing was handled
      have unreserved : ¬ saga.handled .stockReserved := fun reserved =>
        first (commands.stockReserve (commands.reserved (emissions.reserved.mp (Or.inr reserved))))
      apply undisturbed.placed_of_unreserved known unreserved
      intro cancelled
      rcases undisturbed.rejected_of_cancelled cancelled with rejected | released
      · exact first (commands.stockReserve (commands.stockRejected (Or.inr rejected)))
      · exact unreserved (coherent.reserved_of_released (Or.inr released))
  | stockReserved =>
      apply undisturbed.placed_of_unreserved known first
      intro cancelled
      have released := undisturbed.released_of_cancelled emitted cancelled
      exact first (coherent.reserved_of_released (Or.inr released))
  | stockRejected =>
      have unreserved : ¬ saga.handled .stockReserved := fun reserved =>
        undisturbed.oneReservation (Or.inr reserved) emitted
      apply undisturbed.placed_of_unreserved known unreserved
      intro cancelled
      rcases undisturbed.rejected_of_cancelled cancelled with rejected | released
      · exact first rejected
      · exact unreserved (coherent.reserved_of_released (Or.inr released))
  | creditApproved =>
      have reserved := coherent.reserved_of_approved emitted
      exact undisturbed.stockReserved_of_unapproved reserved first
        (undisturbed.not_cancelled_of_approved emitted)
  | creditRejected =>
      have reserved := commands.creditHold (commands.creditRejected emitted)
      have unapproved : ¬ saga.handled .creditApproved := fun approved =>
        undisturbed.oneHold (Or.inr approved) emitted
      apply undisturbed.stockReserved_of_unapproved reserved unapproved
      intro cancelled
      have released := undisturbed.released_of_cancelled (Or.inr reserved) cancelled
      exact first (undisturbed.creditRejected_of_released (Or.inr released)).2
  | stockReleased reason =>
      rcases undisturbed.creditRejected_of_released emitted with ⟨rfl, rejected⟩
      have reserved := coherent.reserved_of_released emitted
      have unapproved : ¬ saga.handled .creditApproved := fun approved =>
        undisturbed.oneHold (Or.inr approved) (Or.inr rejected)
      apply undisturbed.stockReserved_of_unapproved reserved unapproved
      exact fun cancelled =>
        first (undisturbed.released_of_cancelled (Or.inr reserved) cancelled)
  | orderDespatched => exact undisturbed.confirmed_of_undespatched emitted first
  | invoiceIssued => exact undisturbed.despatched_of_uninvoiced emitted first
  | paymentReceived =>
      have issued := coherent.issued_of_received emitted
      exact undisturbed.invoiced_of_unpaid (issued.resolve_left (inTurn _ trivial)) first
  | creditReleased reason =>
      cases reason with
      | orderCancelled => exact absurd emitted undisturbed.not_returned
      | invoicePaid =>
          have received := emissions.received.mpr (Or.inl (emissions.paidFor.mp emitted))
          exact undisturbed.paid_of_uncompleted (received.resolve_left (inTurn _ trivial)) first

end Undisturbed

/-! ## Where an order comes to rest -/

/-- Every command that is owed was carried out. -/
structure CarriedOut (saga : OrderSaga) : Prop where
  reserved : saga.owed .stockReserve →
    saga.emitted .stockReserved ∨ saga.emitted .stockRejected
  settled : ∀ kind, EndsReservation kind → saga.owed kind → saga.stock ≠ some .reserved
  held : saga.owed .creditHold →
    saga.emitted .creditApproved ∨ saga.emitted .creditRejected
  issued : saga.owed .invoiceIssue → saga.emitted .invoiceIssued

namespace Undisturbed

/-- A reservation that was to end, and whose facts are all handled, is released or
consumed. -/
theorem settled (undisturbed : saga.Undisturbed) (carriedOut : saga.CarriedOut)
    (handled : ∀ fact, saga.emitted fact → saga.handled fact) {kind : SagaCommandKind}
    (ends : EndsReservation kind) (owed : saga.owed kind) :
    saga.handled (.stockReleased .creditRejected) ∨ saga.handled .orderDespatched := by
  have coherent := undisturbed.lasts.coherent
  have reserved := coherent.reserved_of_owed ends owed
  have some := coherent.emissions.reserved.mp (Or.inr reserved)
  have notReserved := carriedOut.settled kind ends owed
  cases phase : saga.stock with
  | none => exact absurd phase some
  | some status =>
      cases status with
      | reserved => exact absurd phase notReserved
      | released =>
          rcases coherent.emissions.isReleased phase with ⟨reason, released⟩
          cases (undisturbed.creditRejected_of_released released).1
          exact Or.inl (handled _ released)
      | consumed => exact Or.inr (handled _ (coherent.emissions.despatched.mpr phase))

/-- An order whose facts are handled and whose commands are carried out has ended, or
awaits its payment. -/
theorem rests (undisturbed : saga.Undisturbed) (carriedOut : saga.CarriedOut)
    (quiet : ∀ fact, ¬ saga.pending fact) {status : OrderStatus}
    (isStatus : saga.current.status = some status) :
    status = .completed ∨ status = .cancelled ∨
      status = .invoiced ∧ saga.credit = .invoiced := by
  have ⟨coherent, advances, _, lasting⟩ := undisturbed.lasts
  have ⟨holding, despatching, invoicing, _⟩ := undisturbed.onward
  have emissions := coherent.emissions
  have isTrue := coherent.past _ coherent.current
  have standsFor := isTrue.standsFor _ isStatus
  have handled : ∀ fact, saga.emitted fact → saga.handled fact :=
    fun fact emitted => emitted.resolve_left (quiet fact)
  have settled := @Undisturbed.settled _ undisturbed carriedOut handled
  cases status with
  | completed => exact Or.inl rfl
  | cancelled => exact Or.inr (Or.inl rfl)
  | creditApproved => exact absurd rfl standsFor.notApproving
  | placed =>
      have placed := handled _ (emissions.placed.mpr (by simp [isStatus]))
      rcases carriedOut.reserved (lasting.placing placed isStatus) with reserved | rejected
      · exact absurd isStatus (advances.reserved (handled _ reserved))
      · exact absurd isStatus (lasting.stockRejected (handled _ rejected))
  | stockReserved =>
      rcases carriedOut.held (holding isStatus) with approved | rejected
      · have accepted := advances.approved (handled _ approved) isStatus
        exact absurd (isTrue.accepted accepted).1 undisturbed.notAgreed
      · have owed := lasting.rejecting (handled _ rejected) isStatus
        rcases settled (Or.inl rfl) owed with released | despatched
        · exact absurd isStatus (advances.released _ released)
        · have owed := coherent.owed_of_despatched (Or.inr despatched)
          exact absurd isStatus (advances.despatching owed).2
  | confirmed =>
      have owed := despatching isStatus
      rcases settled (Or.inr rfl) owed with released | despatched
      · have rejected := (undisturbed.creditRejected_of_released (Or.inr released)).2
        have approved := coherent.commands.despatchCreate owed
        exact absurd (Or.inr rejected) (undisturbed.oneHold (Or.inr approved))
      · exact absurd isStatus (advances.despatched despatched)
  | despatched =>
      have issued := handled _ (carriedOut.issued (invoicing isStatus))
      have isInvoiced := advances.invoiced issued
      simp [IsInvoiced, isStatus] at isInvoiced
  | invoiced =>
      have issued := standsFor.invoiced (by simp) (by simp [OrderStatus.rank])
      have unpaid : ¬ saga.emitted .paymentReceived := by
        intro received
        have isPaid := advances.paid (handled _ received)
        simp [isStatus] at isPaid
      rw [emissions.received] at unpaid
      rcases emissions.issued.mp (Or.inr issued) with invoiced | returned | paid | paid
      · exact Or.inr (Or.inr ⟨rfl, invoiced⟩)
      · exact absurd (emissions.returned.mpr (Or.inr (Or.inl returned)))
          undisturbed.not_returned
      · exact absurd (Or.inl paid) unpaid
      · exact absurd (Or.inr paid) unpaid
  | paid =>
      have received := standsFor.paid (by simp) (by simp [OrderStatus.rank])
      rcases emissions.received.mp (Or.inr received) with paid | returned
      · have freed := handled _ (emissions.paidFor.mpr paid)
        exact absurd isStatus (lasting.completing _ freed)
      · exact absurd (emissions.returned.mpr (Or.inr (Or.inr returned)))
          undisturbed.not_returned

end Undisturbed

end OrderSaga

end OrderToCash.Saga
