import Mathlib.Logic.Relation
import OrderToCash.Orders.LineChanges

/-!
# The invariant of the order aggregate

Every operation the aggregate offers, as one alphabet, what an operation that is
accepted changes of an order, and what it keeps.
-/

namespace OrderToCash.Orders

open OrderToCash.Checked
open OrderToCash.Contracts
open OrderToCash.Kernel

/-- The runtime guard that narrows a text to a reason of the closed set. -/
def cancellationReasonOf : String → Option CancellationReason
  | "stock_rejected" => some .stockRejected
  | "credit_rejected" => some .creditRejected
  | "operator_cancelled" => some .operatorCancelled
  | _ => none

/-- Table T-1 pairs the reason with the status it cancels from. -/
structure OrderStatus.Admits (status : OrderStatus)
    (reason : CancellationReason) : Prop where
  cancellable : status.IsCancellable
  stockRejected : reason = .stockRejected → status = .placed
  creditRejected : reason = .creditRejected → status = .stockReserved

/-- The public operations of an order with their arguments.  A cancellation's
reason is unchecked until the operation runs. -/
inductive OrderOperation
  | addLine (newId : UniqueId) (input : PlaceOrderLineInput)
  | removeLine (lineId : UniqueId)
  | changeLineQuantity (lineId : UniqueId) (quantity : Quantity)
  | markStockReserved
  | approveCredit
  | confirm
  | markDespatched
  | markInvoiced
  | markPaid
  | complete
  | cancel (reason : Option String)
      (compensationSteps : List CompensationStep)
  | recordSagaFailure (input : SagaFailureInput)
deriving DecidableEq, Repr

namespace Order

/-- Cancellation with the reason as it arrives: a reason is required, and has
to be one of the closed set. -/
def cancelUnchecked (order : Order) (reason : Option String)
    (compensationSteps : List CompensationStep) : Except OrderError Order :=
  match reason with
  | none => .error (.reasonRequired order.props.orderReference)
  | some text =>
      match cancellationReasonOf text with
      | none => .error (.reasonInvalid order.props.orderReference text)
      | some known => order.cancel known compensationSteps

def perform (order : Order) : OrderOperation → Except OrderError Order
  | .addLine newId input => order.addLine newId input
  | .removeLine lineId => order.removeLine lineId
  | .changeLineQuantity lineId quantity =>
      order.changeLineQuantity lineId quantity
  | .markStockReserved => order.markStockReserved
  | .approveCredit => order.approveCredit
  | .confirm => order.confirm
  | .markDespatched => order.markDespatched
  | .markInvoiced => order.markInvoiced
  | .markPaid => order.markPaid
  | .complete => order.complete
  | .cancel reason compensationSteps =>
      order.cancelUnchecked reason compensationSteps
  | .recordSagaFailure input => .ok (order.recordSagaFailure input)

/-- What holds of an order at every moment of its life.  Its lines are in the upper
case of its currency. -/
structure Sound (order : Order) : Prop where
  lines : order.props.lines ≠ []
  currency : ∀ line ∈ order.props.lines,
    validateCurrency order.props.currency = .ok line.unitPrice.currency ∧
      validateCurrency order.props.currency = .ok line.lineDiscount.currency
  totals : computeOrderTotals order.props.orderReference order.props.currency
      order.props.lines =
    .ok ⟨order.props.initialAmount, order.props.initialDiscount,
      order.props.totalAmount⟩
  notNegative : 0 ≤ order.props.totalAmount.amount
  reason : order.props.cancellationReason.isSome ↔
    order.props.status = .cancelled

/-- What one operation may do to the status and the reason. -/
structure Steps (order next : Order) : Prop where
  status : next.props.status = order.props.status ∨
    Edge order.props.status next.props.status
  reason : order.props.status ≠ .cancelled →
    next.props.status = .cancelled →
      ∃ reason, next.props.cancellationReason = some reason ∧
        order.props.status.Admits reason

/-- What any number of operations may do to an order: the status moves along
the table and rests once terminal, frozen lines stay, and so do a reason and the
currency. -/
structure Precedes (order later : Order) : Prop where
  currency : later.props.currency = order.props.currency
  status : Relation.ReflTransGen Edge order.props.status later.props.status
  terminal : order.props.status.IsTerminal →
    later.props.status = order.props.status
  frozen : order.props.status.LinesFrozen →
    later.props.status.LinesFrozen ∧ later.props.lines = order.props.lines
  reason : order.props.status = .cancelled →
    later.props.cancellationReason = order.props.cancellationReason

/-! ## Accepted totals -/

theorem unitPrices_of_sumAmounts {sum total : Money} {lines : List OrderLine}
    (summed : sumAmounts sum lines = .ok total) :
    ∀ line ∈ lines, line.unitPrice.currency = sum.currency := by
  induction lines generalizing sum with
  | nil =>
      intro line absent
      cases absent
  | cons head rest inductionHypothesis =>
      simp only [sumAmounts, bind_eq_ok_iff] at summed
      rcases summed with ⟨lineTotal, multiplied, next, added, remaining⟩
      rcases Money.add_eq_ok added with ⟨sameCurrency, rfl⟩
      rw [Money.of_text_eq_ok multiplied] at sameCurrency
      intro line member
      rcases List.mem_cons.mp member with rfl | later
      · exact sameCurrency
      · exact inductionHypothesis remaining line later

theorem lineDiscounts_of_sumDiscounts {sum total : Money}
    {lines : List OrderLine} (summed : sumDiscounts sum lines = .ok total) :
    ∀ line ∈ lines, line.lineDiscount.currency = sum.currency := by
  induction lines generalizing sum with
  | nil =>
      intro line absent
      cases absent
  | cons head rest inductionHypothesis =>
      simp only [sumDiscounts, bind_eq_ok_iff] at summed
      rcases summed with ⟨next, added, remaining⟩
      rcases Money.add_eq_ok added with ⟨sameCurrency, rfl⟩
      intro line member
      rcases List.mem_cons.mp member with rfl | later
      · exact sameCurrency
      · exact inductionHypothesis remaining line later

/-- Totals are only derived over lines in the upper case of the order's currency. -/
theorem currencies_of_computeOrderTotals {order : OrderNumber}
    {currency : String} {lines : List OrderLine} {totals : OrderTotals}
    (computed : computeOrderTotals order currency lines = .ok totals) :
    ∀ line ∈ lines, validateCurrency currency = .ok line.unitPrice.currency ∧
      validateCurrency currency = .ok line.lineDiscount.currency := by
  simp only [computeOrderTotals, bind_eq_ok_iff, mapError_eq_ok_iff] at computed
  rcases computed with ⟨zero, isZero, _, amounts, _, discounts, _⟩
  rcases Money.zero_eq_ok_iff.mp isZero with ⟨code, validated, rfl⟩
  intro line member
  constructor
  · rw [unitPrices_of_sumAmounts amounts line member]
    exact validated
  · rw [lineDiscounts_of_sumDiscounts discounts line member]
    exact validated

/-- An order whose totals derive from its lines is sound up to its reason. -/
theorem sound_of_computed {order : Order} (lines : order.props.lines ≠ [])
    (computed : computeOrderTotals order.props.orderReference
        order.props.currency order.props.lines =
      .ok ⟨order.props.initialAmount, order.props.initialDiscount,
        order.props.totalAmount⟩)
    (reason : order.props.cancellationReason.isSome ↔
      order.props.status = .cancelled) : order.Sound where
  lines := lines
  currency := currencies_of_computeOrderTotals computed
  totals := computed
  notNegative := (computeOrderTotals_eq_ok computed).2
  reason := reason

theorem sound_of_place {newId : Nat → UniqueId} {input : PlaceOrderInput}
    {order : Order} (placed : place newId input = .ok order) : order.Sound := by
  rcases place_eq_ok placed with
    ⟨reference, status, reason, currency, lines, notEmpty, computed, _⟩
  apply sound_of_computed
  · rw [lines]
    intro noLines
    apply notEmpty
    have count := congrArg List.length noLines
    simp only [createLines, List.length_mapIdx, List.length_nil] at count
    exact List.length_eq_zero_iff.mp count
  · rw [reference, currency, lines]
    exact computed
  · simp [reason, status]

theorem sound_of_reconstitute {snapshot : OrderProps} {order : Order}
    (rebuilt : reconstitute snapshot = .ok order) : order.Sound := by
  simp only [reconstitute, ite_error_eq_ok_iff, bind_eq_ok_iff,
    Except.ok.injEq, not_and, not_not] at rebuilt
  rcases rebuilt with ⟨notEmpty, ofCancelled, ofOther, totals, computed, rfl⟩
  apply sound_of_computed
  · exact notEmpty
  · exact computed
  · constructor
    · intro present
      by_contra other
      rw [ofOther other] at present
      cases present
    · intro cancelled
      exact Option.isSome_iff_ne_none.mpr (ofCancelled cancelled)

/-! ## What one operation changes -/

/-- Everything an accepted operation can have done. -/
inductive Change (order order' : Order) : Prop
  | lines (lines : List OrderLine) (mutable : ¬ order.props.status.LinesFrozen)
      (notEmpty : lines ≠ []) (replaced : order.replaceLines lines = .ok order')
  | moved (target : OrderStatus) (edge : Edge order.props.status target)
      (notCancelled : target ≠ .cancelled)
      (props : order'.props = { order.props with status := target })
  | cancelled (reason : CancellationReason)
      (admitted : order.props.status.Admits reason)
      (props : order'.props =
        { order.props with
          status := .cancelled
          cancellationReason := some reason })
  | kept (props : order'.props = order.props)

theorem change_of_transitionTo {order order' : Order} {target : OrderStatus}
    {buildEvent : Option (OrderProps → Fact)} (notCancelled : target ≠ .cancelled)
    (accepted : order.transitionTo target none buildEvent = .ok order') :
    Change order order' := by
  rcases transitionTo_eq_ok accepted with ⟨edge, props⟩
  exact .moved target edge notCancelled props

theorem change_of_cancelUnchecked {order order' : Order}
    {reason : Option String} {compensationSteps : List CompensationStep}
    (accepted : order.cancelUnchecked reason compensationSteps = .ok order') :
    Change order order' := by
  unfold cancelUnchecked at accepted
  split at accepted
  · cases accepted
  · split at accepted
    · cases accepted
    · rename_i known _
      rcases cancel_eq_ok accepted with ⟨cancellable, stock, credit, props⟩
      exact .cancelled known ⟨cancellable, stock, credit⟩ props

theorem change_of_perform {order order' : Order} {operation : OrderOperation}
    (accepted : order.perform operation = .ok order') :
    Change order order' := by
  cases operation with
  | addLine newId input =>
      rcases addLine_eq_ok accepted with ⟨mutable, lines, notEmpty, replaced⟩
      exact .lines lines mutable notEmpty replaced
  | removeLine lineId =>
      rcases removeLine_eq_ok accepted with ⟨mutable, lines, notEmpty, replaced⟩
      exact .lines lines mutable notEmpty replaced
  | changeLineQuantity lineId quantity =>
      rcases changeLineQuantity_eq_ok accepted with
        ⟨mutable, lines, notEmpty, replaced⟩
      exact .lines lines mutable notEmpty replaced
  | markStockReserved => exact change_of_transitionTo (by decide) accepted
  | approveCredit => exact change_of_transitionTo (by decide) accepted
  | confirm => exact change_of_transitionTo (by decide) accepted
  | markDespatched => exact change_of_transitionTo (by decide) accepted
  | markInvoiced => exact change_of_transitionTo (by decide) accepted
  | markPaid => exact change_of_transitionTo (by decide) accepted
  | complete => exact change_of_transitionTo (by decide) accepted
  | cancel reason compensationSteps =>
      exact change_of_cancelUnchecked accepted
  | recordSagaFailure input =>
      cases accepted
      exact .kept rfl

theorem Sound.of_props {order order' : Order} (sound : order.Sound)
    (props : order'.props = order.props) : order'.Sound := by
  constructor
  · rw [props]
    exact sound.lines
  · rw [props]
    exact sound.currency
  · rw [props]
    exact sound.totals
  · rw [props]
    exact sound.notNegative
  · rw [props]
    exact sound.reason

theorem Sound.change {order order' : Order} (sound : order.Sound)
    (change : Change order order') : order'.Sound := by
  cases change with
  | lines lines mutable notEmpty replaced =>
      rcases replaceLines_eq_ok replaced with ⟨totals, computed, rfl⟩
      exact sound_of_computed notEmpty computed sound.reason
  | moved target edge notCancelled props =>
      have resting : order.props.status ≠ .cancelled := by
        intro cancelled
        exact not_edge_of_isTerminal (.inr cancelled) edge
      apply sound_of_computed
      · rw [props]
        exact sound.lines
      · rw [props]
        exact sound.totals
      · rw [props]
        constructor
        · intro present
          exact absurd (sound.reason.mp present) resting
        · intro cancelled
          exact absurd cancelled notCancelled
  | cancelled reason admitted props =>
      apply sound_of_computed
      · rw [props]
        exact sound.lines
      · rw [props]
        exact sound.totals
      · simp [props]
  | kept props => exact sound.of_props props

theorem Change.steps {order order' : Order} (change : Change order order') :
    Steps order order' := by
  cases change with
  | lines lines mutable notEmpty replaced =>
      rcases replaceLines_eq_ok replaced with ⟨totals, _, rfl⟩
      constructor
      · exact .inl rfl
      · intro other cancelled
        exact absurd cancelled other
  | moved target edge notCancelled props =>
      constructor
      · rw [props]
        exact .inr edge
      · intro _ cancelled
        rw [props] at cancelled
        exact absurd cancelled notCancelled
  | cancelled reason admitted props =>
      constructor
      · rw [props]
        exact .inr admitted.cancellable
      · intro _ _
        exact ⟨reason, by rw [props], admitted⟩
  | kept props =>
      constructor
      · exact .inl (congrArg OrderProps.status props)
      · intro other cancelled
        rw [props] at cancelled
        exact absurd cancelled other

/-- No edge leads from a status with frozen lines back to one without. -/
theorem linesFrozen_of_edge {source target : OrderStatus}
    (frozen : source.LinesFrozen) (edge : Edge source target) :
    target.LinesFrozen := by
  revert frozen edge
  cases source <;> cases target <;> decide

theorem Precedes.refl (order : Order) : Precedes order order where
  currency := rfl
  status := .refl
  terminal _ := rfl
  frozen frozen := ⟨frozen, rfl⟩
  reason _ := rfl

theorem Precedes.trans {order middle later : Order}
    (first : Precedes order middle) (second : Precedes middle later) :
    Precedes order later where
  currency := second.currency.trans first.currency
  status := first.status.trans second.status
  terminal terminal := by
    have same := first.terminal terminal
    rw [← same] at terminal
    exact (second.terminal terminal).trans same
  frozen frozen := by
    rcases first.frozen frozen with ⟨stillFrozen, same⟩
    rcases second.frozen stillFrozen with ⟨frozenLater, sameLater⟩
    exact ⟨frozenLater, sameLater.trans same⟩
  reason cancelled := by
    have same := first.terminal (.inr cancelled)
    exact (second.reason (same.trans cancelled)).trans (first.reason cancelled)

theorem Change.precedes {order order' : Order} (change : Change order order') :
    Precedes order order' := by
  cases change with
  | lines lines mutable notEmpty replaced =>
      rcases replaceLines_eq_ok replaced with ⟨totals, _, rfl⟩
      constructor
      · rfl
      · exact .refl
      · intro _
        rfl
      · intro frozen
        exact absurd frozen mutable
      · intro _
        rfl
  | moved target edge notCancelled props =>
      constructor
      · rw [props]
      · rw [props]
        exact .single edge
      · intro terminal
        exact absurd edge (not_edge_of_isTerminal terminal)
      · intro frozen
        rw [props]
        exact ⟨linesFrozen_of_edge frozen edge, rfl⟩
      · intro _
        rw [props]
  | cancelled reason admitted props =>
      have edge : Edge order.props.status .cancelled := admitted.cancellable
      constructor
      · rw [props]
      · rw [props]
        exact .single edge
      · intro terminal
        exact absurd edge (not_edge_of_isTerminal terminal)
      · intro frozen
        rw [props]
        exact ⟨linesFrozen_of_edge frozen edge, rfl⟩
      · intro cancelled
        exact absurd edge (not_edge_of_isTerminal (.inr cancelled))
  | kept props =>
      constructor
      · rw [props]
      · rw [props]
      · intro _
        rw [props]
      · intro frozen
        rw [props]
        exact ⟨frozen, rfl⟩
      · intro _
        rw [props]

end Order

end OrderToCash.Orders
