import OrderToCash.Saga.Attendance
import OrderToCash.Saga.TruthfulReason

/-!
# Stock of a cancelled order

A cancelled order gives its reservation back where some command that ends it is
owed.  Two commits leave none: the fact of a reservation that finds the order
cancelled, and an operator's cancel that was to find it placed and finds it
`stock_reserved`.
-/

namespace OrderToCash.Saga

open OrderToCash.Billing
open OrderToCash.Contracts
open OrderToCash.Fulfillment
open OrderToCash.Kernel
open OrderToCash.Orders
open OrderToCash.Transition

namespace SagaSystem

/-- What the transaction would leave of the order has a command for its stock. -/
def ClaimsStock (system : SagaSystem) (order : OrderNumber) :
    OrdersTransaction → Prop
  | .handleFact envelope _ =>
      sagaFact? envelope.fact = some .stockReserved →
        system.orders.db.statusOf order ≠ some .cancelled
  | .cancelPlaced _ =>
      system.orders.db.statusOf order = some .stockReserved →
        (system.orders.db.sagaCommands order .stockRelease).isSome
  | .onFirstPark _ _ => True

instance (system : SagaSystem) (order : OrderNumber) (work : OrdersTransaction) :
    Decidable (system.ClaimsStock order work) := by
  unfold ClaimsStock
  split <;> infer_instance

/-- No reservation is first handled at a cancelled order, and no placed branch of
a cancel commits at a `stock_reserved` one without a stock release owed. -/
def StockClaimed (order : OrderNumber) : Guard SagaSystem SagaAction
  | system, .orders (.commit index) =>
      ∀ opened ∈ system.orders.openTransactions[index]?,
        opened.work.order = order → system.ClaimsStock order opened.work
  | _, _ => True

instance (order : OrderNumber) (system : SagaSystem) (action : SagaAction) :
    Decidable (StockClaimed order system action) := by
  unfold StockClaimed
  split <;> infer_instance

/-- A cancelled order at rest has no reservation left. -/
def StockReturned (system : SagaSystem) (order : OrderNumber) : Prop :=
  system.Quiescent order → system.orders.db.statusOf order = some .cancelled →
    ∀ row ∈ system.fulfillment.db.reservationsOf order,
      row.reservation.status ≠ .reserved

end SagaSystem

namespace OrderSaga

variable {saga saga' : OrderSaga} {label : Label}

/-- The moves after which a command for the stock is owed. -/
structure ClaimsStock (saga : OrderSaga) (label : Label) : Prop where
  handle : ∀ read, label = .handle .stockReserved read →
    saga.current.status ≠ some .cancelled
  cancel : ∀ read, label = .cancel read →
    saga.current.status = some .stockReserved → saga.owed .stockRelease

/-- Something is owed that ends the reservation. -/
def IsClaimed (saga : OrderSaga) : Prop :=
  saga.owed .stockRelease ∨ saga.owed .despatchCreate

/-- A cancelled order whose reservation was handled is owed a command for it. -/
structure StockClaimed (saga : OrderSaga) : Prop where
  reserved : saga.handled .stockReserved → saga.current.status ≠ some .placed
  confirmed : saga.current.status = some .confirmed → saga.owed .despatchCreate
  cancelled : saga.current.status = some .cancelled → saga.handled .stockReserved →
    saga.IsClaimed

theorem StockClaimed.initial : initial.StockClaimed := by
  constructor <;> simp [OrderSaga.initial, unplaced]

/-- Nothing is claimed anew where the status and the facts handled stay. -/
theorem StockClaimed.of_same (claimed : saga.StockClaimed)
    (status : saga'.current.status = saga.current.status)
    (owed : ∀ kind, saga.owed kind → saga'.owed kind)
    (handled : saga'.handled = saga.handled) : saga'.StockClaimed := by
  constructor
  all_goals simp only [status, handled]
  · exact claimed.reserved
  · exact fun isConfirmed => owed _ (claimed.confirmed isConfirmed)
  · exact fun isCancelled isHandled =>
      (claimed.cancelled isCancelled isHandled).imp (owed _) (owed _)

theorem StockClaimed.handle (coherent : saga.Coherent) (claimed : saga.StockClaimed)
    {fact : SagaFact} {reaction : Reaction} (waits : saga.pending fact)
    (claims : fact = .stockReserved → saga.current.status ≠ some .cancelled)
    (reacted : react saga.current fact = some reaction) (rest : Prop) :
    ((saga.consume fact rest).carryOut reaction).StockClaimed := by
  have ⟨reserved, confirmed, cancelled⟩ := claimed
  have standsFor := (coherent.past _ coherent.current).standsFor
  cases reacts_of_react reacted with
  | ignored fact =>
      have unfit := fun status => @status_ne_of_ignored saga.current fact status reacted
      constructor
      all_goals simp only [IsClaimed, carryOut_handled, carryOut_owed, carryOut_current,
        after, Reaction.ignored, consume_handled, consume_owed, consume_current,
        reduceCtorEq, false_or]
      · rintro (rfl | before)
        · exact unfit _ rfl
        · exact reserved before
      · exact confirmed
      · rintro isCancelled (rfl | before)
        · exact absurd isCancelled (claims rfl)
        · exact cancelled isCancelled before
  | released reason isStatus =>
      -- the stock was released because it was owed
      have owed := coherent.emissions.releaseOwed.mpr
        ⟨reason, (coherent.emissions.released reason (Or.inl waits)).2⟩
      constructor <;> simp [after, isStatus, IsClaimed, Reaction.cancelled, owed]
  | returned status isStatus held =>
      have isConfirmed := held.resolve_left (standsFor _ isStatus).notApproving
      subst isConfirmed
      constructor <;>
        simp [after, isStatus, IsClaimed, Reaction.cancelled, confirmed isStatus]
  | stockRejected isStatus =>
      constructor <;> simp [after, isStatus, IsClaimed, Reaction.cancelled]
      exact fun isHandled => absurd isStatus (reserved isHandled)
  | releasedHeld reason status isStatus held =>
      constructor <;> simp [after, isStatus, IsClaimed, Reaction.advanced] <;> grind
  | placed isStatus | stockReserved isStatus | approved isStatus | creditRejected isStatus
  | despatched isStatus | invoiced isStatus | paid isStatus | completed _ isStatus =>
      constructor <;> simp [after, isStatus, IsClaimed, Reaction.advanced] <;> grind
  | late isLate =>
      constructor <;> simp [after, IsClaimed] <;> grind [IsClaimed]

theorem StockClaimed.move (coherent : saga.Coherent) (claimed : saga.StockClaimed)
    (fresh : saga.Fresh label) (claims : saga.ClaimsStock label)
    (moved : saga.Move label saga') : saga'.StockClaimed := by
  cases moved with
  | place unknown =>
      have nothing : ¬ saga.handled .stockReserved := fun isHandled =>
        coherent.known_of_emitted (Or.inr isHandled) unknown
      constructor <;> simp [nothing]
  | handle fact read reaction rest waits isPast reacts again =>
      cases fresh read rfl
      exact claimed.handle coherent waits (fun same => claims.handle _ (by rw [same]))
        reacts rest
  | cancel read status isPast isStatus cancellable =>
      cases fresh read rfl
      have standsFor := (coherent.past _ coherent.current).standsFor _ isStatus
      have owed := claims.cancel _ rfl
      have ⟨reserved, confirmed, cancelled⟩ := claimed
      rcases (OrderStatus.isCancellable_iff _).mp cancellable with rfl | rfl | rfl | rfl
      · constructor <;> simp [isStatus, IsClaimed]
        exact fun isHandled => absurd isStatus (reserved isHandled)
      · constructor <;> simp [isStatus, IsClaimed, owed isStatus]
      · exact absurd rfl standsFor.notApproving
      · constructor <;> simp [isStatus, IsClaimed, confirmed isStatus]
  | firstPark read status isPast isStatus =>
      cases fresh read rfl
      exact claimed.of_same (congrArg Version.status (saved_self isStatus)) (fun _ => id) rfl
  | beginRelease => exact claimed.of_same rfl (fun _ owed => Or.inr owed) rfl
  | _ =>
      apply claimed.of_same
      · rfl
      · exact fun _ => id
      · rfl

theorem stockClaimed_of_reached
    (reached : Reached Move (fun saga label => saga.Fresh label ∧ saga.ClaimsStock label)
      initial saga) : saga.Coherent ∧ saga.StockClaimed := by
  apply reached.invariant ⟨.initial, .initial⟩
  rintro state label state' ⟨coherent, claimed⟩ ⟨fresh, claims⟩ moved
  exact ⟨coherent.move moved, claimed.move coherent fresh claims moved⟩

end OrderSaga

variable {order : OrderNumber} {system : SagaSystem} {saga : OrderSaga}
  {action : SagaAction} {label : OrderSaga.Label}

/-- The status of the order as the saga has it. -/
theorem Represents.status_eq (represents : Represents order system saga) :
    saga.current.status = system.orders.db.statusOf order :=
  congrArg Version.status represents.orders.tables.current

/-- Nothing of an order at rest is on its way. -/
theorem Represents.not_pending (represents : Represents order system saga)
    (facts : ∀ topic position, system.Settled order topic position) (fact : SagaFact) :
    ¬ saga.pending fact := by
  intro waits
  have delivery := represents.orders.delivery fact.topic
  rcases (delivery.waiting_iff fact rfl).mp waits with
    ⟨position, ⟨entry, isEntry, reads⟩, unprocessed⟩
  rcases read_eq_some.mp reads with ⟨ofOrder, isFact⟩
  rcases facts fact.topic position entry isEntry ofOrder with skipped | isProcessed
  · rw [isSkipped_iff, isFact] at skipped
    cases skipped
  · exact unprocessed isProcessed

/-- A command that has a row is owed. -/
theorem Represents.owed_of_isSome (represents : Represents order system saga)
    {kind : SagaCommandKind} (stored : (system.orders.db.sagaCommands order kind).isSome) :
    saga.owed kind := by
  rw [represents.orders.tables.owed]
  simpa [OrdersDb.commands, Option.isSome_iff_ne_none] using stored

/-- Where no commit leaves the stock unclaimed, no move does. -/
theorem Represents.claimsStock (represents : Represents order system saga)
    (claimed : SagaSystem.StockClaimed order system action)
    (explained : Explains order system action label) : saga.ClaimsStock label := by
  constructor
  · rintro read rfl
    rcases explained.exists_handleFact with
      ⟨index, opened, envelope, sourceTopic, rfl, found, work, ofOrder, isFact, _⟩
    have claims := claimed opened found (by rw [work]; exact ofOrder)
    rw [work] at claims
    rw [represents.status_eq]
    exact claims isFact
  · rintro read rfl isReserved
    rcases explained.exists_cancelPlaced with ⟨index, opened, rfl, found, work⟩
    have claims := claimed opened found (by rw [work]; rfl)
    rw [work] at claims
    rw [represents.status_eq] at isReserved
    exact represents.owed_of_isSome (claims isReserved)

/-- In every serial run whose commits leave the stock claimed, a cancelled order at
rest has no reservation left. -/
theorem stock_returned {stock : StockCatalogue} {credits : CreditCatalogue}
    (reached : Reachable SagaSystem.step
      (fun system action => SagaSystem.Serial order system action ∧
        SagaSystem.StockClaimed order system action)
      (SagaSystem.initial stock credits) system) : system.StockReturned order := by
  rcases exists_fresh (fun _ _ guarded => guarded.1)
    (fun _ _ _ _ represents guarded explained =>
      represents.claimsStock guarded.2 explained) reached with ⟨saga, represents, run⟩
  rcases OrderSaga.stockClaimed_of_reached run with ⟨coherent, claimed⟩
  rcases attended_of_reachable reached with ⟨reported, answered⟩
  intro quiescent isCancelled row rowMem isReserved
  rcases exists_reserve order system.orders.db with ⟨companyCode, lines, compatible⟩
  have arbitrated := represents.stock.arbitrated companyCode lines compatible
  have phase : saga.stock = some .reserved := by
    rw [represents.stock.phase, ← isReserved]
    exact arbitrated.consistent.uniform row rowMem
  have emitted := coherent.emissions.reserved.mpr (by simp [phase])
  have handled := emitted.resolve_left (represents.not_pending quiescent.facts _)
  rw [← represents.status_eq] at isCancelled
  rcases claimed.cancelled isCancelled handled with owed | owed
  · exact represents.not_reserved reported answered quiescent.commands (Or.inl rfl)
      owed phase
  · exact represents.not_reserved reported answered quiescent.commands (Or.inr rfl)
      owed phase

/-! ## A reservation that finds its order cancelled -/

instance (system : SagaSystem) (order : OrderNumber) :
    Decidable (system.StockReturned order) :=
  inferInstanceAs (Decidable (_ → _ → ∀ row ∈ _, _))

/-- The order is cancelled between the commit of its reservation and its fact. -/
def cancelledWhileReserved : List (SagaSystem → SagaAction) :=
  [ fun _ => .orders (.place 0 singleLineOrder (singleLineForm 0)),
    SagaSystem.deliver .orders 0,
    fun _ => .orders (.commit 0),
    SagaSystem.dispatch ⟨1⟩ .stockReserve,
    fun _ => .fulfillment (.run 0),
    fun _ => .orders (.markSent ⟨1⟩ .stockReserve),
    fun _ => .orders (.readForCancel ⟨1⟩ none),
    fun _ => .orders (.actOnCancel 0),
    fun _ => .orders (.commit 0),
    SagaSystem.deliver .fulfillment 0,
    fun _ => .orders (.commit 0) ]

theorem stock_stranded :
    ¬ ∀ (order : OrderNumber) (stock : StockCatalogue) (credits : CreditCatalogue)
        (system : SagaSystem),
      Reachable SagaSystem.step (SagaSystem.Serial order)
        (SagaSystem.initial stock credits) system → system.StockReturned order := by
  intro claimed
  have ran : (execute (choosing SagaSystem.step)
      (fun state choose => decide (SagaSystem.Serial ⟨1⟩ state (choose state)))
      (SagaSystem.initial FulfillmentSystem.twoProducts tenThousandLimit)
      cancelledWhileReserved).any
        (fun system => decide (¬ system.StockReturned ⟨1⟩)) = true := by
    decide +kernel
  rcases (Option.any_eq_true _ _).mp ran with ⟨system, executed, stranded⟩
  exact of_decide_eq_true stranded
    (claimed ⟨1⟩ _ _ system (reachable_of_choices executed))

/-- The order is cancelled once its reservation was handled, and gives back its
stock and the credit that is approved after. -/
def cancelledOnceReserved : List (SagaSystem → SagaAction) :=
  [ fun _ => .orders (.place 0 singleLineOrder (singleLineForm 0)),
    SagaSystem.deliver .orders 0,
    fun _ => .orders (.commit 0),
    SagaSystem.dispatch ⟨1⟩ .stockReserve,
    fun _ => .fulfillment (.run 0),
    fun _ => .orders (.markSent ⟨1⟩ .stockReserve),
    SagaSystem.deliver .fulfillment 0,
    fun _ => .orders (.commit 0),
    fun _ => .orders (.readForCancel ⟨1⟩ none),
    fun _ => .orders (.actOnCancel 0),
    SagaSystem.dispatch ⟨1⟩ .stockRelease,
    fun _ => .fulfillment (.run 0),
    fun _ => .orders (.markSent ⟨1⟩ .stockRelease),
    SagaSystem.deliver .fulfillment 1,
    fun _ => .orders (.commit 0),
    SagaSystem.dispatch ⟨1⟩ .creditHold,
    fun _ => .billing (.run 0 false),
    fun _ => .orders (.markSent ⟨1⟩ .creditHold),
    SagaSystem.deliver .billing 0,
    fun _ => .orders (.commit 0),
    SagaSystem.dispatch ⟨1⟩ .creditRelease,
    fun _ => .billing (.run 0 false),
    fun _ => .orders (.markSent ⟨1⟩ .creditRelease),
    SagaSystem.deliver .billing 1,
    fun _ => .orders (.commit 0) ]

theorem stock_given_back :
    ∃ system, Reachable SagaSystem.step
        (fun state action => SagaSystem.Serial ⟨1⟩ state action ∧
          SagaSystem.StockClaimed ⟨1⟩ state action)
        (SagaSystem.initial FulfillmentSystem.twoProducts tenThousandLimit) system ∧
      system.Quiescent ⟨1⟩ ∧ system.orders.db.statusOf ⟨1⟩ = some .cancelled ∧
        system.StockReturned ⟨1⟩ := by
  have ran : (execute (choosing SagaSystem.step)
      (fun state choose => decide (SagaSystem.Serial ⟨1⟩ state (choose state) ∧
        SagaSystem.StockClaimed ⟨1⟩ state (choose state)))
      (SagaSystem.initial FulfillmentSystem.twoProducts tenThousandLimit)
      cancelledOnceReserved).any
        (fun system => decide (system.Quiescent ⟨1⟩ ∧
          system.orders.db.statusOf ⟨1⟩ = some .cancelled)) = true := by
    decide +kernel
  rcases (Option.any_eq_true _ _).mp ran with ⟨system, executed, holds⟩
  have ⟨quiescent, cancelled⟩ := of_decide_eq_true holds
  exact ⟨system, reachable_of_choices executed, quiescent, cancelled,
    stock_returned (reachable_of_choices executed)⟩

end OrderToCash.Saga
