import OrderToCash.Saga.Represents

/-!
# Never shipped with its hold returned

One lock arbitrates release against despatch, and a credit is returned only
after the release, or for an approval that then owes no despatch.  So an order
that is shipped keeps its hold until it is paid for, whatever is interleaved.
-/

namespace OrderToCash.Saga

open OrderToCash.Billing
open OrderToCash.Contracts
open OrderToCash.Fulfillment
open OrderToCash.Kernel
open OrderToCash.Orders
open OrderToCash.Transition

variable {order : OrderNumber} {system : SagaSystem} {saga : OrderSaga}

/-- A despatched order owes no return of its credit. -/
theorem OrderSaga.Coherent.not_returned_of_despatched (coherent : saga.Coherent)
    (despatched : saga.emitted .orderDespatched) :
    ¬ saga.emitted (.creditReleased .orderCancelled) := by
  intro returned
  have consumed := coherent.emissions.despatched.mp despatched
  have owed := coherent.commands.returned returned
  rcases coherent.commands.returnShown owed with ⟨reason, released⟩ | ⟨_, noDespatch⟩
  · have isReleased := (coherent.emissions.released reason (Or.inr released)).1
    rw [consumed] at isReleased
    cases isReleased
  · exact noDespatch (coherent.commands.consumed consumed)

/-- An order with a despatch advice has its stock consumed. -/
theorem Represents.consumed_of_despatch (represents : Represents order system saga)
    {despatch : DespatchAdvice}
    (despatchMem : despatch ∈ system.fulfillment.db.despatches)
    (ofOrder : despatch.orderReference = order) : saga.stock = some .consumed := by
  rcases exists_reserve order system.orders.db with ⟨companyCode, lines, compatible⟩
  have arbitrated := represents.stock.arbitrated companyCode lines compatible
  have leftBehind := congrArg OrderStock.Traces.despatchRows
    arbitrated.consistent.leftBehind
  have listed : despatch ∈ (system.fulfillment.db.orderStock order).despatches :=
    List.mem_filter.mpr ⟨despatchMem, decide_eq_true ofOrder⟩
  have some := List.length_pos_of_mem listed
  rw [represents.stock.phase]
  simp only [OrderStock.traces] at leftBehind
  rw [leftBehind] at some
  cases phase : (system.fulfillment.db.orderStock order).phase with
  | none => simp [phase, OrderStock.tracesOf] at some
  | some status => cases status <;> simp [phase, OrderStock.tracesOf] at some ⊢

/-- The order has a despatch advice, or a fact that tells of one. -/
def SagaSystem.Shipped (system : SagaSystem) (order : OrderNumber) : Prop :=
  (∃ despatch ∈ system.fulfillment.db.despatches, despatch.orderReference = order) ∨
    ∃ payload, Fact.orderDespatched payload ∈ system.fulfillment.db.outbox ∧
      payload.orderReference = order

/-- The order's credit was released for a cancellation. -/
def SagaSystem.HoldReturned (system : SagaSystem) (order : OrderNumber) : Prop :=
  ∃ payload, Fact.creditReleased payload ∈ system.billing.db.outbox ∧
    payload.orderReference = order ∧ payload.reason = .orderCancelled

/-- Whatever the services interleave, deliver again or cancel, an order is not
shipped with its hold returned. -/
theorem never_shipped_with_hold_returned {stock : StockCatalogue}
    {credits : CreditCatalogue}
    (reached : Reachable SagaSystem.step unguarded (SagaSystem.initial stock credits)
      system) (order : OrderNumber) :
    ¬ (system.Shipped order ∧ system.HoldReturned order) := by
  rintro ⟨shipped, payload, payloadMem, ofOrder, isReason⟩
  rcases exists_represented order reached with ⟨saga, represents⟩
  have coherent := represents.coherent
  have returned : saga.emitted (.creditReleased .orderCancelled) := by
    apply (represents.emitted_iff _).mpr
    exact ⟨_, payloadMem, ofOrder, by simp [sagaFact?, isReason]⟩
  have despatched : saga.emitted .orderDespatched := by
    rcases shipped with ⟨despatch, despatchMem, ofOrder⟩ | ⟨advice, adviceMem, ofOrder⟩
    · exact coherent.emissions.despatched.mpr
        (represents.consumed_of_despatch despatchMem ofOrder)
    · exact (represents.emitted_iff _).mpr ⟨_, adviceMem, ofOrder, rfl⟩
  exact coherent.not_returned_of_despatched despatched returned

/-! ## A despatch that wins over a release -/

/-- One credit line with room for the order. -/
def tenThousandLimit : CreditCatalogue where
  rows := [⟨⟨100⟩, "CRD-0001", "RET-0001", "COM-0001", 10000, .eur⟩]
  ids := by decide
  keys := by decide
  limits := by decide

/-- The order is confirmed, an operator's cancel is accepted, and the despatch
and the stock release are both under way when the despatch runs first. -/
def despatchBeforeRelease : List (SagaSystem → SagaAction) :=
  [ fun _ => .orders (.place 0 singleLineOrder (singleLineForm 0)),
    SagaSystem.deliver .orders 0,
    fun _ => .orders (.commit 0),
    SagaSystem.dispatch ⟨1⟩ .stockReserve,
    fun _ => .fulfillment (.run 0),
    SagaSystem.deliver .fulfillment 0,
    fun _ => .orders (.commit 0),
    SagaSystem.dispatch ⟨1⟩ .creditHold,
    fun _ => .billing (.run 0 false),
    SagaSystem.deliver .billing 0,
    fun _ => .orders (.commit 0),
    fun _ => .orders (.readForCancel ⟨1⟩ none),
    fun _ => .orders (.actOnCancel 0),
    SagaSystem.dispatch ⟨1⟩ .stockRelease,
    SagaSystem.dispatch ⟨1⟩ .despatchCreate,
    fun _ => .fulfillment (.locate 1),
    fun _ => .fulfillment (.run 1),
    fun _ => .fulfillment (.run 0),
    SagaSystem.deliver .fulfillment 1,
    fun _ => .orders (.commit 0) ]

theorem despatched_order_keeps_hold :
    ∃ system, Reachable SagaSystem.step unguarded
        (SagaSystem.initial FulfillmentSystem.twoProducts tenThousandLimit) system ∧
      system.orders.db.statusOf ⟨1⟩ = some .despatched ∧
        ¬ (system.Shipped ⟨1⟩ ∧ system.HoldReturned ⟨1⟩) := by
  have ran : (execute (choosing SagaSystem.step)
      (fun state choose => decide (unguarded state (choose state)))
      (SagaSystem.initial FulfillmentSystem.twoProducts tenThousandLimit) despatchBeforeRelease).map
        (fun system => system.orders.db.statusOf ⟨1⟩) =
      some (some .despatched) := by
    decide +kernel
  rcases Option.map_eq_some_iff.mp ran with ⟨system, executed, status⟩
  have reached := reachable_of_choices executed
  exact ⟨system, reached, status, never_shipped_with_hold_returned reached ⟨1⟩⟩

end OrderToCash.Saga
