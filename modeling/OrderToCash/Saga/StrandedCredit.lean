import OrderToCash.Saga.CreditAttendance
import OrderToCash.Saga.StrandedStock

/-!
# Credit of a cancelled order

A cancelled order gives its hold back where a credit release is owed.  Three
commits can leave none: one by a transaction that has read another status than
the one it writes over, the approval of an order that was cancelled for a
rejection, and an operator's cancel that was to find the order placed and finds
it confirmed.
-/

namespace OrderToCash.Saga

open OrderToCash.Billing
open OrderToCash.Contracts
open OrderToCash.Fulfillment
open OrderToCash.Kernel
open OrderToCash.Orders
open OrderToCash.Transition

namespace SagaSystem

/-- What the transaction would leave of the order has a command for its credit. -/
def ClaimsCredit (system : SagaSystem) (order : OrderNumber) (opened : OpenTransaction) :
    Prop :=
  match opened.work with
  | .handleFact envelope _ =>
      sagaFact? envelope.fact = some .creditApproved →
        opened.snapshot.statusOf order = some .cancelled →
          (opened.snapshot.version order).reason = some .operatorCancelled
  | .cancelPlaced _ =>
      system.orders.db.statusOf order = some .confirmed →
        (system.orders.db.sagaCommands order .creditRelease).isSome
  | .onFirstPark _ _ => True

instance (system : SagaSystem) (order : OrderNumber) (opened : OpenTransaction) :
    Decidable (system.ClaimsCredit order opened) := by
  unfold ClaimsCredit
  split <;> infer_instance

/-- Every commit writes over the status it has read; no approval is handled of an
order cancelled for a rejection, and no placed branch of a cancel commits at a
confirmed order without a credit release owed. -/
def CreditClaimed (order : OrderNumber) : Guard SagaSystem SagaAction
  | system, .orders (.commit index) =>
      ∀ opened ∈ system.orders.openTransactions[index]?, opened.work.order = order →
        opened.snapshot.statusOf order = system.orders.db.statusOf order ∧
          system.ClaimsCredit order opened
  | _, _ => True

instance (order : OrderNumber) (system : SagaSystem) :
    ∀ action, Decidable (CreditClaimed order system action)
  | .orders (.commit index) =>
      inferInstanceAs (Decidable
        (∀ opened ∈ system.orders.openTransactions[index]?, _ → _ ∧ _))
  | .orders (.place ..) | .orders (.beginFact ..) | .orders (.readForCancel ..)
  | .orders (.actOnCancel _) | .orders (.rollback _) | .orders (.markSent ..)
  | .orders (.markRejected ..) | .orders (.park ..) | .orders (.claimDeadLetter _)
  | .orders (.beginFirstPark _) | .fulfillment _ | .billing _ => instDecidableTrue

/-- A cancelled order at rest ties up no credit, on any line. -/
def CreditReturned (system : SagaSystem) (order : OrderNumber) : Prop :=
  system.Quiescent order → system.orders.db.statusOf order = some .cancelled →
    ∀ line ∈ system.billing.db.credits,
      (summariseLedger (system.billing.db.ledgerOf line)).amountOf order
        OrderExposure.exposure = 0

end SagaSystem

namespace OrderSaga

variable {saga saga' : OrderSaga} {label : Label}

/-- The moves after which a command for the credit is owed. -/
structure ClaimsCredit (saga : OrderSaga) (label : Label) : Prop where
  current : ∀ read ∈ label.read?, read.status = saga.current.status
  handle : ∀ read, label = .handle .creditApproved read →
    read.status = some .cancelled → read.reason = some .operatorCancelled
  cancel : ∀ read, label = .cancel read →
    saga.current.status = some .confirmed → saga.owed .creditRelease

/-- Where the approval of an order was handled and the order has not gone on, a
credit release is owed. -/
structure CreditClaimed (saga : OrderSaga) : Prop where
  placed : saga.handled .stockReserved → saga.current.status ≠ some .placed
  reserved : saga.handled .creditApproved →
    saga.current.status = some .stockReserved → saga.owed .creditRelease
  cancelled : saga.handled .creditApproved →
    saga.current.status = some .cancelled → saga.owed .creditRelease

theorem CreditClaimed.initial : initial.CreditClaimed := by
  constructor <;> simp [OrderSaga.initial, unplaced]

theorem CreditClaimed.of_same (claimed : saga.CreditClaimed)
    (status : saga'.current.status = saga.current.status)
    (owed : saga.owed .creditRelease → saga'.owed .creditRelease)
    (handled : saga'.handled = saga.handled) : saga'.CreditClaimed := by
  constructor
  all_goals simp only [status, handled]
  · exact claimed.placed
  · exact fun isHandled isReserved => owed (claimed.reserved isHandled isReserved)
  · exact fun isHandled isCancelled => owed (claimed.cancelled isHandled isCancelled)

/-- The approval of an order an operator has cancelled is not ignored. -/
theorem not_ignored_of_operatorCancelled {read : Version}
    (isCancelled : read.status = some .cancelled)
    (reason : read.reason = some .operatorCancelled) :
    react read .creditApproved ≠ some .ignored := by
  have isLate : read.IsLate .creditApproved := by
    rw [Version.IsLate, if_pos isCancelled]
    exact ⟨rfl, reason⟩
  simp [react, isCancelled, isLate, Reaction.ignored]

theorem CreditClaimed.handle (coherent : saga.Coherent) (claimed : saga.CreditClaimed)
    {fact : SagaFact} {read : Version} {reaction : Reaction} (waits : saga.pending fact)
    (current : read.status = saga.current.status)
    (claims : fact = .creditApproved → read.status = some .cancelled →
      read.reason = some .operatorCancelled)
    (reacted : react read fact = some reaction) (rest : Prop) :
    ((saga.consume fact rest).carryOut reaction).CreditClaimed := by
  have ⟨placed, reserved, cancelled⟩ := claimed
  have standsFor := (coherent.past _ coherent.current).standsFor
  have approvedLater : saga.handled .creditApproved → saga.handled .stockReserved :=
    fun isHandled => coherent.reserved_of_approved (Or.inr isHandled)
  cases reacts_of_react reacted with
  | ignored fact =>
      have unfit := fun status => @status_ne_of_ignored read fact status reacted
      rw [current] at unfit
      constructor
      all_goals simp only [carryOut_handled, carryOut_owed, carryOut_current, after,
        Reaction.ignored, consume_handled, consume_owed, consume_current, reduceCtorEq,
        false_or]
      · rintro (rfl | before)
        · exact unfit _ rfl
        · exact placed before
      · rintro (rfl | before) isReserved
        · exact absurd isReserved (unfit _ rfl)
        · exact reserved before isReserved
      · rintro (rfl | before) isCancelled
        · rw [← current] at isCancelled
          exact absurd reacted
            (not_ignored_of_operatorCancelled isCancelled (claims rfl isCancelled))
        · exact cancelled before isCancelled
  | stockRejected isStatus | stockReserved isStatus =>
      rw [current] at isStatus
      have nothing : ¬ saga.handled .creditApproved := fun isHandled =>
        placed (approvedLater isHandled) isStatus
      constructor <;> simp [after, isStatus, nothing, Reaction.advanced, Reaction.cancelled]
  | released reason isStatus =>
      rw [current] at isStatus
      constructor <;> simp [after, isStatus, Reaction.cancelled]
      exact fun isHandled => reserved isHandled isStatus
  | returned status isStatus held =>
      rw [current] at isStatus
      have owed := coherent.commands.returned (Or.inl waits)
      constructor <;> simp [after, isStatus, Reaction.cancelled, owed]
  | late isLate =>
      constructor <;> simp [after]
      exact placed
  | placed isStatus | approved isStatus | creditRejected isStatus | despatched isStatus
  | invoiced isStatus | paid isStatus | completed _ isStatus =>
      rw [current] at isStatus
      constructor <;> simp [after, isStatus, Reaction.advanced] <;> grind
  | releasedHeld reason status isStatus held =>
      rw [current] at isStatus
      constructor <;> simp [after, isStatus, Reaction.advanced]
      grind

theorem CreditClaimed.move (coherent : saga.Coherent) (claimed : saga.CreditClaimed)
    (claims : saga.ClaimsCredit label) (moved : saga.Move label saga') :
    saga'.CreditClaimed := by
  cases moved with
  | place unknown =>
      have nothing : ∀ fact, ¬ saga.handled fact := fun fact isHandled =>
        coherent.known_of_emitted (Or.inr isHandled) unknown
      constructor <;> simp [nothing]
  | handle fact read reaction rest waits isPast reacts again =>
      exact claimed.handle coherent waits (claims.current read rfl)
        (fun same => claims.handle read (by rw [same])) reacts rest
  | cancel read status isPast isStatus cancellable =>
      have current := claims.current read rfl
      rw [isStatus] at current
      have standsFor := (coherent.past _ coherent.current).standsFor _ current.symm
      have owed := claims.cancel _ rfl
      have ⟨placed, reserved, cancelled⟩ := claimed
      have approvedLater : saga.handled .creditApproved → saga.handled .stockReserved :=
        fun isHandled => coherent.reserved_of_approved (Or.inr isHandled)
      rcases (OrderStatus.isCancellable_iff _).mp cancellable with rfl | rfl | rfl | rfl
      · constructor <;> simp [← current]
        exact fun isHandled => absurd current.symm (placed (approvedLater isHandled))
      · constructor <;> simp [← current]
        exact fun isHandled => reserved isHandled current.symm
      · exact absurd rfl standsFor.notApproving
      · constructor <;> simp [← current, owed current.symm]
  | firstPark read status isPast isStatus =>
      have current := claims.current read rfl
      rw [isStatus] at current
      apply claimed.of_same
      · simp [saved, ← current]
      · exact fun owed => owed
      · rfl
  | beginRelease => exact claimed.of_same rfl Or.inr rfl
  | _ =>
      apply claimed.of_same
      · rfl
      · exact id
      · rfl

theorem creditClaimed_of_reached (reached : Reached Move ClaimsCredit initial saga) :
    saga.Coherent ∧ saga.CreditClaimed := by
  apply reached.invariant ⟨.initial, .initial⟩
  rintro state label state' ⟨coherent, claimed⟩ claims moved
  exact ⟨coherent.move moved, claimed.move coherent claims moved⟩

end OrderSaga

variable {order : OrderNumber} {system : SagaSystem} {saga : OrderSaga}
  {action : SagaAction} {label : OrderSaga.Label}

/-- Where no commit leaves the credit unclaimed, no move does. -/
theorem Represents.claimsCredit (represents : Represents order system saga)
    (claimed : SagaSystem.CreditClaimed order system action)
    (explained : Explains order system action label) : saga.ClaimsCredit label := by
  constructor
  · intro read isRead
    rcases explained.commits read isRead with ⟨index, opened, rfl, found, ofOrder, _, rfl⟩
    rw [represents.status_eq]
    exact (claimed opened found ofOrder).1
  · rintro read rfl
    rcases explained.exists_handleFact with
      ⟨index, opened, envelope, sourceTopic, rfl, found, work, ofOrder, isFact, rfl⟩
    have claims := (claimed opened found (by rw [work]; exact ofOrder)).2
    unfold SagaSystem.ClaimsCredit at claims
    rw [work] at claims
    exact claims isFact
  · rintro read rfl isConfirmed
    rcases explained.exists_cancelPlaced with ⟨index, opened, rfl, found, work⟩
    have claims := (claimed opened found (by rw [work]; rfl)).2
    unfold SagaSystem.ClaimsCredit at claims
    rw [work] at claims
    rw [represents.status_eq] at isConfirmed
    exact represents.owed_of_isSome (claims isConfirmed)

/-- In every run whose commits leave the credit claimed, a cancelled order at rest
ties up no credit. -/
theorem credit_returned {stock : StockCatalogue} {credits : CreditCatalogue}
    (reached : Reachable SagaSystem.step (SagaSystem.CreditClaimed order)
      (SagaSystem.initial stock credits) system) : system.CreditReturned order := by
  rcases exists_saga order (fun _ _ _ _ represents claimed explained =>
      represents.claimsCredit claimed explained) reached with ⟨saga, represents, run⟩
  rcases OrderSaga.creditClaimed_of_reached run with ⟨coherent, claimed⟩
  rcases attended_of_reachable reached with ⟨reported, _⟩
  rcases exists_holdOf represents reached with ⟨hold, holdOf⟩
  have accounted := represents.credit.accounted hold holdOf.ofOrder holdOf.asked
  intro quiescent isCancelled line _
  have onLine := accounted.onLine
  rw [holdOf.ofOrder] at onLine
  apply exposure_eq_zero onLine
  rw [← represents.status_eq] at isCancelled
  by_cases isHandled : saga.handled .creditApproved
  · exact (represents.isReturned reported (creditAnswered_of_reachable reached)
      quiescent.commands (claimed.cancelled isHandled isCancelled)).2
  · have unheld : saga.credit = .unheld := by
      by_contra held
      have emitted := coherent.emissions.approved.mpr held
      exact isHandled (emitted.resolve_left (represents.not_pending quiescent.facts _))
    rw [(represents.credit.inPhase holdOf.ofOrder holdOf.asked).exposure_eq, unheld]
    rfl

/-! ## A cancel that finds its order confirmed -/

instance (system : SagaSystem) (order : OrderNumber) :
    Decidable (system.CreditReturned order) :=
  inferInstanceAs (Decidable (_ → _ → ∀ line ∈ _, _))

/-- An operator's cancel reads the order placed and commits once it is confirmed. -/
def cancelledOnceConfirmed : List (SagaSystem → SagaAction) :=
  [ fun _ => .orders (.place 0 singleLineOrder (singleLineForm 0)),
    fun _ => .orders (.readForCancel ⟨1⟩ none),
    SagaSystem.deliver .orders 0,
    fun _ => .orders (.commit 0),
    SagaSystem.dispatch ⟨1⟩ .stockReserve,
    fun _ => .fulfillment (.run 0),
    fun _ => .orders (.markSent ⟨1⟩ .stockReserve),
    SagaSystem.deliver .fulfillment 0,
    fun _ => .orders (.commit 0),
    SagaSystem.dispatch ⟨1⟩ .creditHold,
    fun _ => .billing (.run 0 false),
    fun _ => .orders (.markSent ⟨1⟩ .creditHold),
    SagaSystem.deliver .billing 0,
    fun _ => .orders (.commit 0),
    fun _ => .orders (.actOnCancel 0),
    fun _ => .orders (.commit 0),
    SagaSystem.dispatch ⟨1⟩ .despatchCreate,
    fun _ => .fulfillment (.locate 0),
    fun _ => .fulfillment (.run 0),
    fun _ => .orders (.markSent ⟨1⟩ .despatchCreate),
    SagaSystem.deliver .fulfillment 1,
    fun _ => .orders (.commit 0) ]

theorem credit_stranded :
    ¬ ∀ (order : OrderNumber) (stock : StockCatalogue) (credits : CreditCatalogue)
        (system : SagaSystem),
      Reachable SagaSystem.step (SagaSystem.Orderly order)
        (SagaSystem.initial stock credits) system → system.CreditReturned order := by
  intro claimed
  have ran : (execute (choosing SagaSystem.step)
      (fun state choose => decide (SagaSystem.Orderly ⟨1⟩ state (choose state)))
      (SagaSystem.initial FulfillmentSystem.twoProducts tenThousandLimit)
      cancelledOnceConfirmed).any
        (fun system => decide (¬ system.CreditReturned ⟨1⟩)) = true := by
    decide +kernel
  rcases (Option.any_eq_true _ _).mp ran with ⟨system, executed, stranded⟩
  exact of_decide_eq_true stranded
    (claimed ⟨1⟩ _ _ system (reachable_of_choices executed))

theorem credit_given_back :
    ∃ system, Reachable SagaSystem.step (SagaSystem.CreditClaimed ⟨1⟩)
        (SagaSystem.initial FulfillmentSystem.twoProducts tenThousandLimit) system ∧
      system.Quiescent ⟨1⟩ ∧ system.orders.db.statusOf ⟨1⟩ = some .cancelled ∧
        system.CreditReturned ⟨1⟩ := by
  have ran : (execute (choosing SagaSystem.step)
      (fun state choose => decide (SagaSystem.CreditClaimed ⟨1⟩ state (choose state)))
      (SagaSystem.initial FulfillmentSystem.twoProducts tenThousandLimit)
      cancelledOnceReserved).any
        (fun system => decide (system.Quiescent ⟨1⟩ ∧
          system.orders.db.statusOf ⟨1⟩ = some .cancelled)) = true := by
    decide +kernel
  rcases (Option.any_eq_true _ _).mp ran with ⟨system, executed, holds⟩
  have ⟨quiescent, cancelled⟩ := of_decide_eq_true holds
  have reached := reachable_of_choices executed
  exact ⟨system, reached, quiescent, cancelled, credit_returned reached⟩

end OrderToCash.Saga
