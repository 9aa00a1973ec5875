import OrderToCash.Billing.Answers
import OrderToCash.Saga.Attendance
import OrderToCash.Saga.KeptTerms

/-!
# Credit releases that were attended to

A credit release is owed for an approval that was handled, on the terms of the
order, and so of the line its hold is on.  Where it is not outstanding, Billing
has answered it and the order ties nothing up.
-/

namespace OrderToCash.Saga

open OrderToCash.Billing
open OrderToCash.Contracts
open OrderToCash.Fulfillment
open OrderToCash.Kernel
open OrderToCash.Orders
open OrderToCash.Transition

namespace OrderSaga

variable {saga saga' : OrderSaga} {label : Label}

/-- A credit release is owed for an approval that was handled. -/
def ReturnsApproved (saga : OrderSaga) : Prop :=
  saga.owed .creditRelease → saga.handled .creditApproved

theorem ReturnsApproved.move (coherent : saga.Coherent) (approved : saga.ReturnsApproved)
    (moved : saga.Move label saga') : saga'.ReturnsApproved := by
  rcases moved.mono with ⟨handled, _, _, _⟩
  have kept : (saga'.owed .creditRelease → saga.owed .creditRelease) →
      saga'.ReturnsApproved := fun owed isOwed => handled _ (approved (owed isOwed))
  cases moved with
  | handle fact read reaction rest waits isPast reacts again =>
      intro owed
      rcases (carryOut_owed _ _ _).mp owed with owes | before
      · cases reacts_of_react reacts with
        | late isLate => simp
        | releasedHeld reason status isStatus held =>
            have standsFor := (coherent.past read isPast).standsFor _ isStatus
            have isConfirmed := held.resolve_left standsFor.notApproving
            subst isConfirmed
            apply handled
            exact standsFor.approved (by simp) (by simp [OrderStatus.rank])
        | _ => cases owes
      · exact handled _ (approved before)
  | beginRelease =>
      apply kept
      rintro (absurdity | owed)
      · cases absurdity
      · exact owed
  | _ => exact kept id

theorem returnsApproved_of_reached {admits : OrderSaga → Label → Prop}
    (reached : Reached Move admits initial saga) :
    saga.Coherent ∧ saga.ReturnsApproved := by
  apply reached.invariant ⟨.initial, fun absurdity => absurdity.elim⟩
  rintro state label state' ⟨coherent, approved⟩ _ moved
  exact ⟨coherent.move moved, approved.move coherent moved⟩

end OrderSaga

variable {order : OrderNumber} {system system' : SagaSystem} {saga : OrderSaga}
  {action : SagaAction}

/-- The hold every credit command of the order is about. -/
structure HoldOf (order : OrderNumber) (db : OrdersDb) (hold : CreditHoldRequest) :
    Prop where
  ofOrder : hold.orderReference = order
  nonneg : 0 ≤ hold.amount.amount
  asked : ∀ request, request.orderReference = order →
    db.Owes (.creditHold request) → request = hold
  returned : ∀ request, request.orderReference = order →
    db.Owes (.creditRelease request) →
      request.retailerCode = hold.retailerCode ∧ request.companyCode = hold.companyCode

theorem KeepsTerms.asks {terms : OrderProps} {orders : OrdersSystem}
    (keeps : KeepsTerms order terms orders) {payload : SagaCommandPayload}
    (ofOrder : payload.order = order) (owes : orders.db.Owes payload) :
    Asks terms payload := by
  rcases Option.map_eq_some_iff.mp owes with ⟨row, stored, isPayload⟩
  rw [ofOrder] at stored
  rw [← isPayload]
  exact keeps.asked _ row stored

/-- The hold on the terms of the order. -/
theorem KeepsTerms.holdOf {terms : OrderProps} {orders : OrdersSystem}
    (keeps : KeepsTerms order terms orders) :
    HoldOf order orders.db (holdRequestOf terms) where
  ofOrder := keeps.ofOrder
  nonneg := keeps.priced.totalled.steps.2.2.2
  asked request := @KeepsTerms.asks _ _ _ keeps (.creditHold request)
  returned request ofOrder owes := by
    have asks : request = releaseRequestOf terms :=
      @KeepsTerms.asks _ _ _ keeps (.creditRelease request) ofOrder owes
    rw [asks]
    exact ⟨rfl, rfl⟩

/-- Nothing is asked for an order that is not placed. -/
theorem Represents.holdOf_unplaced (represents : Represents order system saga)
    (unplaced : system.orders.db.orders order = none) :
    HoldOf order system.orders.db ⟨order, "", "", ⟨0, .eur⟩⟩ := by
  have unknown : saga.current.status = none := by
    rw [represents.orders.tables.current]
    simp [OrdersDb.version, OrdersDb.statusOf, unplaced]
  have nothing : ∀ payload : SagaCommandPayload, payload.order = order →
      ¬ system.orders.db.Owes payload := by
    intro payload ofOrder owes
    have owed := represents.orders.tables.owed_of_owes ofOrder owes
    exact represents.coherent.commands.isPlaced _ owed unknown
  exact ⟨rfl, Int.le_refl 0, fun request ofOrder owes => absurd owes (nothing _ ofOrder),
    fun request ofOrder owes => absurd owes (nothing _ ofOrder)⟩

theorem exists_holdOf {guard : Guard SagaSystem SagaAction} {stock : StockCatalogue}
    {credits : CreditCatalogue} (represents : Represents order system saga)
    (reached : Reachable SagaSystem.step guard (SagaSystem.initial stock credits)
      system) : ∃ hold, HoldOf order system.orders.db hold := by
  by_cases unplaced : system.orders.db.orders order = none
  · exact ⟨_, represents.holdOf_unplaced unplaced⟩
  · rcases exists_terms reached unplaced with ⟨terms, keeps⟩
    exact ⟨_, keeps.holdOf⟩

/-! ## The answers of Billing -/

section Returns

variable {hold : CreditHoldRequest} (represents : Represents order system saga)
  (approved : saga.ReturnsApproved) (holdOf : HoldOf order system.orders.db hold)
include represents approved holdOf

/-- A release is asked of a hold, on its line. -/
theorem Represents.returnsHeld {request : BillingRequest}
    (owes : ∀ payload ∈ creditCommand? request, system.orders.db.Owes payload) :
    BillingSystem.ReturnsHeld hold system.billing request := by
  rintro release rfl ofOrder
  rw [holdOf.ofOrder] at ofOrder ⊢
  have isOwed := owes _ rfl
  refine ⟨holdOf.returned release ofOrder isOwed, ?_⟩
  have owed : saga.owed .creditRelease :=
    @Tables.owed_of_owes _ _ _ represents.orders.tables (.creditRelease release) ofOrder
      isOwed
  have emitted : saga.emitted .creditApproved := Or.inr (approved owed)
  rw [(represents.credit.inPhase holdOf.ofOrder holdOf.asked).hasHold_iff]
  exact represents.coherent.emissions.approved.mp emitted

theorem creditAnswered_step (answered : system.billing.Answered order)
    (stepped : SagaSystem.step system action = some system') :
    system'.billing.Answered order := by
  rcases SagaSystem.step_eq_some.mp stepped with ⟨enabled, acted⟩
  cases action with
  | orders action =>
      simp only [SagaSystem.act, Option.map_eq_some_iff] at acted
      rcases acted with ⟨orders, _, rfl⟩
      exact answered
  | fulfillment action =>
      simp only [SagaSystem.act, Option.map_eq_some_iff] at acted
      rcases acted with ⟨fulfillment, _, rfl⟩
      exact answered
  | billing action =>
      simp only [SagaSystem.act, Option.map_eq_some_iff] at acted
      rcases acted with ⟨billing, serviceStepped, rfl⟩
      have accounted := represents.credit.accounted hold holdOf.ofOrder holdOf.asked
      have asked : ∀ call ∈ system.billing.calls,
          BillingSystem.ReturnsHeld hold system.billing call.request :=
        fun call callMem => represents.returnsHeld approved holdOf
          (represents.credit.requested call callMem)
      rw [← holdOf.ofOrder] at answered ⊢
      exact answered.step accounted holdOf.nonneg asked serviceStepped

end Returns

/-- In every reachable state Billing's answers are about the credit of the order. -/
theorem creditAnswered_of_reachable {guard : Guard SagaSystem SagaAction}
    {stock : StockCatalogue} {credits : CreditCatalogue}
    (reached : Reachable SagaSystem.step guard (SagaSystem.initial stock credits)
      system) : system.billing.Answered order := by
  induction reached with
  | refl => exact BillingSystem.answered_initial credits order
  | tail path admitted stepped inductionHypothesis =>
      rcases exists_run order path with ⟨saga, represents, run⟩
      rcases OrderSaga.returnsApproved_of_reached run with ⟨_, approved⟩
      rcases exists_holdOf represents path with ⟨hold, holdOf⟩
      exact creditAnswered_step represents approved holdOf inductionHypothesis stepped

/-- A credit release that is owed and not outstanding has left nothing tied up. -/
theorem Represents.isReturned (represents : Represents order system saga)
    (reported : Reported order system) (answered : system.billing.Answered order)
    (quiet : ∀ kind, ∀ row ∈ system.orders.db.sagaCommands order kind,
      ¬ row.IsOutstanding)
    (owed : saga.owed .creditRelease) :
    (system.billing.db.orderCredit order).IsReturned := by
  rcases represents.row_of_owed owed with ⟨row, stored, ofOrder, isKind⟩
  rcases reported.answered stored (quiet _ row stored) with ⟨ofKind, _, wasAnswered⟩
  generalize row.payload = payload at ofOrder isKind wasAnswered
  cases payload with
  | creditRelease release =>
      have isCredit : creditCommand? (.creditRelease release) =
        some (.creditRelease release) := rfl
      rcases creditAnswer_of_answered isCredit wasAnswered with ⟨answer, answerMem, same, _⟩
      exact answered.returned answer answerMem release same ofOrder
  | stockReserve | stockRelease | despatchCreate | creditHold | invoiceIssue => cases isKind

/-- An order that ties nothing up shows no exposure on any line. -/
theorem exposure_eq_zero {db : BillingDb} {retailerCode companyCode : String}
    (onLine : db.OnLine order retailerCode companyCode)
    (none : (db.orderCredit order).exposure = 0) (line : CreditRow) :
    (summariseLedger (db.ledgerOf line)).amountOf order OrderExposure.exposure = 0 := by
  rw [amountOf_exposure, BillingDb.orderExposure_ledgerOf]
  rcases BillingDb.itemsOf_eq_or_nil onLine line.id with all | nothing
  · rw [all]
    exact none
  · rw [nothing]
    rfl

end OrderToCash.Saga
