import OrderToCash.Orders.Order

/-!
# The line mutators

Adding, removing and requantifying a line.  Each operation checks that the
lines are still mutable, builds the candidate lines, derives the totals from
them and only then replaces the lines and the totals together.
-/

namespace OrderToCash.Orders

open OrderToCash.Checked
open OrderToCash.Contracts
open OrderToCash.Kernel

/-- The statuses the lines of an order may change in. -/
def linesMutableIn : List OrderStatus :=
  [.placed, .stockReserved, .creditApproved]

/-- From `confirmed` on, and in a cancelled order, the lines are frozen. -/
def OrderStatus.LinesFrozen (status : OrderStatus) : Prop :=
  status ∉ linesMutableIn

instance (status : OrderStatus) : Decidable status.LinesFrozen :=
  inferInstanceAs (Decidable (_ ∉ _))

def OrderLine.withQuantity (line : OrderLine) (quantity : Quantity) :
    OrderLine :=
  { line with quantity := quantity }

namespace Order

def assertLinesMutable (order : Order) : Except OrderError Unit :=
  if order.props.status.LinesFrozen then
    .error (.linesFrozen order.props.orderReference order.props.status)
  else
    .ok ()

/-- Derive the totals of the candidate lines and commit both. -/
def replaceLines (order : Order) (lines : List OrderLine) :
    Except OrderError Order := do
  let totals ←
    computeOrderTotals order.props.orderReference order.props.currency lines
  .ok
    ⟨{ order.props with
        lines := lines
        initialAmount := totals.initialAmount
        initialDiscount := totals.initialDiscount
        totalAmount := totals.totalAmount },
      order.domainEvents⟩

def addLine (order : Order) (newId : UniqueId) (input : PlaceOrderLineInput) :
    Except OrderError Order := do
  order.assertLinesMutable
  assertLineCurrencies order.props.orderReference order.props.currency [input]
  order.replaceLines
    (order.props.lines ++
      [{ id := newId
         productCode := input.productCode
         description := input.description
         quantity := input.quantity
         unitPrice := input.unitPrice
         lineDiscount := input.lineDiscount }])

def removeLine (order : Order) (lineId : UniqueId) :
    Except OrderError Order := do
  order.assertLinesMutable
  if order.props.lines.any (fun line => line.id = lineId) = false then
    .error (.lineNotFound order.props.orderReference lineId)
  else
    let candidateLines :=
      order.props.lines.filter fun line => ¬ line.id = lineId
    if candidateLines = [] then
      .error (.hasNoLines order.props.orderReference)
    else
      order.replaceLines candidateLines

def changeLineQuantity (order : Order) (lineId : UniqueId)
    (quantity : Quantity) : Except OrderError Order := do
  order.assertLinesMutable
  if order.props.lines.find? (fun line => line.id = lineId) = none then
    .error (.lineNotFound order.props.orderReference lineId)
  else
    order.replaceLines
      (order.props.lines.map fun line =>
        if line.id = lineId then line.withQuantity quantity else line)

/-! ## What the mutators do -/

theorem assertLinesMutable_eq_ok_iff (order : Order) :
    order.assertLinesMutable = .ok () ↔ ¬ order.props.status.LinesFrozen := by
  simp [assertLinesMutable]

/-- Replacing the lines commits totals derived from them and nothing else. -/
theorem replaceLines_eq_ok {order order' : Order} {lines : List OrderLine}
    (accepted : order.replaceLines lines = .ok order') :
    ∃ totals,
      computeOrderTotals order.props.orderReference order.props.currency
          lines = .ok totals ∧
        order' =
          ⟨{ order.props with
              lines := lines
              initialAmount := totals.initialAmount
              initialDiscount := totals.initialDiscount
              totalAmount := totals.totalAmount },
            order.domainEvents⟩ := by
  simp only [replaceLines, bind_eq_ok_iff, Except.ok.injEq] at accepted
  rcases accepted with ⟨totals, computed, rfl⟩
  exact ⟨totals, computed, rfl⟩

theorem addLine_eq_ok {order order' : Order} {newId : UniqueId}
    {input : PlaceOrderLineInput}
    (accepted : order.addLine newId input = .ok order') :
    ¬ order.props.status.LinesFrozen ∧
      ∃ lines, lines ≠ [] ∧ order.replaceLines lines = .ok order' := by
  simp only [addLine, bind_eq_ok_iff] at accepted
  rcases accepted with ⟨_, mutable, _, _, replaced⟩
  exact ⟨(assertLinesMutable_eq_ok_iff order).mp mutable, _,
    List.append_ne_nil_of_right_ne_nil _ (List.cons_ne_nil _ _), replaced⟩

theorem removeLine_eq_ok {order order' : Order} {lineId : UniqueId}
    (accepted : order.removeLine lineId = .ok order') :
    ¬ order.props.status.LinesFrozen ∧
      ∃ lines, lines ≠ [] ∧ order.replaceLines lines = .ok order' := by
  simp only [removeLine, bind_eq_ok_iff, ite_error_eq_ok_iff] at accepted
  rcases accepted with ⟨_, mutable, _, notEmpty, replaced⟩
  exact ⟨(assertLinesMutable_eq_ok_iff order).mp mutable, _, notEmpty, replaced⟩

theorem changeLineQuantity_eq_ok {order order' : Order} {lineId : UniqueId}
    {quantity : Quantity}
    (accepted : order.changeLineQuantity lineId quantity = .ok order') :
    ¬ order.props.status.LinesFrozen ∧
      ∃ lines, lines ≠ [] ∧ order.replaceLines lines = .ok order' := by
  simp only [changeLineQuantity, bind_eq_ok_iff, ite_error_eq_ok_iff] at accepted
  rcases accepted with ⟨_, mutable, found, replaced⟩
  have notEmpty : order.props.lines ≠ [] := by
    intro noLines
    apply found
    rw [noLines, List.find?_nil]
  exact ⟨(assertLinesMutable_eq_ok_iff order).mp mutable, _,
    fun noLines => notEmpty (List.map_eq_nil_iff.mp noLines), replaced⟩

end Order

end OrderToCash.Orders
