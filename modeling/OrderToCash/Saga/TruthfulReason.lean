import OrderToCash.Saga.Shipment
import OrderToCash.Saga.Verdicts

/-!
# What a cancellation reason says

The reason an order is cancelled for is read off the fact that cancels it and
the status that fact meets, not off what began the compensation.  It is true all
the same where nothing is granted that was rejected before.
-/

namespace OrderToCash.Saga

open OrderToCash.Billing
open OrderToCash.Contracts
open OrderToCash.Fulfillment
open OrderToCash.Kernel
open OrderToCash.Orders
open OrderToCash.Transition

/-- The order is stored as cancelled for the reason. -/
def SagaSystem.CancelledFor (system : SagaSystem) (order : OrderNumber)
    (reason : CancellationReason) : Prop :=
  ∃ props ∈ system.orders.db.orders order,
    props.status = .cancelled ∧ props.cancellationReason = some reason

instance (system : SagaSystem) (order : OrderNumber) (reason : CancellationReason) :
    Decidable (system.CancelledFor order reason) :=
  inferInstanceAs (Decidable (∃ props ∈ system.orders.db.orders order, _))

/-- What the reason of an order says of the run up to it, and of the run from it
to a later state. -/
structure TruthfulReason (order : OrderNumber) (system later : SagaSystem) : Prop where
  operatorCancelled : system.CancelledFor order .operatorCancelled →
    ∃ answer ∈ system.orders.cancelAnswers,
      answer.order = order ∧ answer.outcome.IsAccepted
  stockRejected : system.CancelledFor order .stockRejected →
    later.fulfillment.db.reservationsOf order = []
  creditRejected : system.CancelledFor order .creditRejected →
    system.Emitted order .creditRejected ∧ ¬ later.Emitted order .creditApproved

variable {order : OrderNumber} {system later : SagaSystem} {saga : OrderSaga}
  {stock : StockCatalogue} {credits : CreditCatalogue}

/-- A stored cancellation stands for what its reason does. -/
theorem Represents.standsFor_of_cancelledFor (represents : Represents order system saga)
    {reason : CancellationReason} (cancelled : system.CancelledFor order reason) :
    saga.StandsFor .cancelled (some reason) := by
  rcases cancelled with ⟨props, stored, isCancelled, isFor⟩
  have isTrue := represents.coherent.past _ represents.coherent.current
  have isStored := Option.mem_def.mp stored
  have version : saga.current =
      ⟨some .cancelled, some reason, saga.current.accepted⟩ := by
    rw [represents.orders.tables.current]
    simp [OrdersDb.version, OrdersDb.statusOf, isStored, isCancelled, isFor]
  have standsFor := isTrue.standsFor .cancelled (by rw [version])
  rwa [version] at standsFor

/-- Where rejections stand, no command of the order is both granted and rejected. -/
theorem exists_oneSided
    (reached : Reachable SagaSystem.step (SagaSystem.RejectionsStand order)
      (SagaSystem.initial stock credits) system) :
    ∃ saga, Represents order system saga ∧ saga.OneSided := by
  rcases exists_saga order
    (fun _ _ _ _ represents stands => represents.rejectionStands stands)
    reached with ⟨saga, represents, path⟩
  refine ⟨saga, represents, path.invariant .initial ?_⟩
  exact fun _ _ _ oneSided stands moved => oneSided.move stands moved

/-- What was emitted is emitted in every later state. -/
theorem emitted_of_reachable
    (reached : Reachable SagaSystem.step (SagaSystem.RejectionsStand order)
      (SagaSystem.initial stock credits) system)
    (onwards : Reachable SagaSystem.step (SagaSystem.RejectionsStand order) system
      later)
    {fact : SagaFact} (emitted : system.Emitted order fact) :
    later.Emitted order fact := by
  induction onwards with
  | refl => exact emitted
  | tail path _ stepped inductionHypothesis =>
      rcases exists_represented order (reached.trans path) with ⟨saga, represents⟩
      exact emitted_step represents stepped inductionHypothesis

/-- Where rejections stand, the reason of a cancelled order is the truth and
stays it. -/
theorem cancellation_truthful
    (reached : Reachable SagaSystem.step (SagaSystem.RejectionsStand order)
      (SagaSystem.initial stock credits) system)
    (onwards : Reachable SagaSystem.step (SagaSystem.RejectionsStand order) system
      later) : TruthfulReason order system later := by
  rcases exists_oneSided reached with ⟨saga, represents, oneSided⟩
  rcases exists_oneSided (reached.trans onwards) with ⟨sagaLater, representsLater, stays⟩
  have persists := fun fact (emitted : saga.emitted fact) =>
    emitted_of_reachable reached onwards
      ((represents.emitted_iff_emitted fact).mp emitted)
  constructor
  · intro cancelled
    have standsFor := represents.standsFor_of_cancelledFor cancelled
    apply represents.orders.agreed.mp
    rcases standsFor.operatorCancelled rfl with agreed | ⟨rejected, approved⟩
    · exact agreed
    · -- a hold that was rejected is not held
      have unheld := oneSided.credit (Or.inr rejected)
      have held := represents.coherent.emissions.approved.mp (Or.inr approved)
      exact absurd unheld held
  · intro cancelled
    have standsFor := represents.standsFor_of_cancelledFor cancelled
    have rejected := persists _ (Or.inr (standsFor.stockRejected rfl))
    have unreserved := stays.stock ((representsLater.emitted_iff_emitted _).mpr rejected)
    rw [representsLater.stock.phase] at unreserved
    exact OrderStock.phase_eq_none_iff.mp unreserved
  · intro cancelled
    have standsFor := represents.standsFor_of_cancelledFor cancelled
    have released : saga.emitted (.stockReleased .creditRejected) :=
      Or.inr (standsFor.creditRejected rfl)
    have owed := (represents.coherent.emissions.released _ released).2
    have rejected : saga.emitted .creditRejected :=
      Or.inr (represents.coherent.commands.releaseRejected owed)
    constructor
    · exact (represents.emitted_iff_emitted _).mp rejected
    · intro approved
      have unheld := stays.credit
        ((representsLater.emitted_iff_emitted _).mpr (persists _ rejected))
      have held := representsLater.coherent.emissions.approved.mp
        ((representsLater.emitted_iff_emitted _).mpr approved)
      exact held unheld

/-! ## A rejected order with a reservation -/

/-- One unit of the order's product, of which it needs two. -/
def oneUnit : StockCatalogue where
  rows := [⟨⟨100⟩, "COM-0001", "PRD-0001", 1, 0, 1⟩]
  ids := by decide
  keys := by decide
  unreserved := by decide

/-- The order is rejected for want of stock. -/
def rejectedForStock : List (SagaSystem → SagaAction) :=
  [ fun _ => .orders (.place 0 singleLineOrder (singleLineForm 0)),
    SagaSystem.deliver .orders 0,
    fun _ => .orders (.commit 0),
    SagaSystem.dispatch ⟨1⟩ .stockReserve,
    fun _ => .fulfillment (.run 0),
    SagaSystem.deliver .fulfillment 0,
    fun _ => .orders (.commit 0) ]

/-- The reply of the rejection is lost, the stock is replenished, and the request
is delivered again before the rejection is. -/
def reservedThenRejected : List (SagaSystem → SagaAction) :=
  rejectedForStock.take 5 ++
    [ fun _ => .fulfillment (.receive (.stockReplenish
        ⟨"COM-0001", [⟨"PRD-0001", 20⟩]⟩)),
      fun _ => .fulfillment (.run 0),
      SagaSystem.dispatch ⟨1⟩ .stockReserve,
      fun _ => .fulfillment (.run 0),
      SagaSystem.deliver .fulfillment 0,
      fun _ => .orders (.commit 0) ]

/-- An order cancelled for want of stock has its stock reserved. -/
theorem reason_not_truthful :
    ¬ ∀ (order : OrderNumber) (stock : StockCatalogue) (credits : CreditCatalogue)
        (system later : SagaSystem),
      Reachable SagaSystem.step unguarded (SagaSystem.initial stock credits) system →
        Reachable SagaSystem.step unguarded system later →
          TruthfulReason order system later := by
  intro claimed
  have ran : (execute (choosing SagaSystem.step)
      (fun state choose => decide (unguarded state (choose state)))
      (SagaSystem.initial oneUnit tenThousandLimit) reservedThenRejected).any
        (fun system => decide (system.CancelledFor ⟨1⟩ .stockRejected ∧
          system.fulfillment.db.reservationsOf ⟨1⟩ ≠ [])) = true := by
    decide +kernel
  rcases (Option.any_eq_true _ _).mp ran with ⟨system, executed, holds⟩
  rcases of_decide_eq_true holds with ⟨cancelled, reserved⟩
  have truthful := claimed ⟨1⟩ oneUnit tenThousandLimit system system
    (reachable_of_choices executed) Reachable.refl
  exact reserved (truthful.stockRejected cancelled)

/-- The rejection stands where the request is not delivered again. -/
theorem rejected_order_truthful :
    ∃ system, Reachable SagaSystem.step (SagaSystem.RejectionsStand ⟨1⟩)
        (SagaSystem.initial oneUnit tenThousandLimit) system ∧
      system.CancelledFor ⟨1⟩ .stockRejected ∧ TruthfulReason ⟨1⟩ system system := by
  have ran : (execute (choosing SagaSystem.step)
      (fun state choose => decide (SagaSystem.RejectionsStand ⟨1⟩ state (choose state)))
      (SagaSystem.initial oneUnit tenThousandLimit) rejectedForStock).any
        (fun system => decide (system.CancelledFor ⟨1⟩ .stockRejected)) = true := by
    decide +kernel
  rcases (Option.any_eq_true _ _).mp ran with ⟨system, executed, holds⟩
  have reached := reachable_of_choices executed
  exact ⟨system, reached, of_decide_eq_true holds,
    cancellation_truthful reached Reachable.refl⟩

end OrderToCash.Saga
