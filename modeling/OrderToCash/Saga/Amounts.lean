import OrderToCash.Billing.Protocol
import OrderToCash.Orders.SagaCommands

/-!
# The amounts of an order

An order's total is computed from its lines when it is placed, and again by
Billing from the lines of the invoicing request.  The two computations add up
the same amounts in the same order, so that whatever the first accepts the
second accepts with the same result.
-/

namespace OrderToCash.Saga

open OrderToCash.Checked
open OrderToCash.Contracts
open OrderToCash.Kernel
open OrderToCash.Orders

/-! ## What is validated -/

/-- The amounts the validated request and the catalogue give are not
negative. -/
def ValidatedLines (lines : List PlaceOrderLineInput) : Prop :=
  ∀ line ∈ lines, 0 ≤ line.unitPrice.amount ∧ 0 ≤ line.lineDiscount.amount

instance (lines : List PlaceOrderLineInput) : Decidable (ValidatedLines lines) :=
  inferInstanceAs (Decidable (∀ line ∈ lines, _))

/-- `Σ unitPrice × units` over the lines of an invoicing request. -/
def computedAmount (lines : List InvoiceLine) : Int :=
  (lines.map fun line => line.unitPrice * (line.units.value : Int)).sum

/-- The checks of `InvoiceIssueRequestDto`. -/
structure InvoiceIssueRequestDto (request : InvoiceIssueRequest) : Prop where
  arrayMinSize : request.lines ≠ []
  unitPrices : ∀ line ∈ request.lines, 0 ≤ line.unitPrice
  discount : 0 ≤ request.discount
  discountWithinComputedAmount : request.discount ≤ computedAmount request.lines

/-! ## Two computations of one total -/

/-- A line of the order as Orders sends it to Billing. -/
def sentLine (line : OrderLine) : InvoiceLine :=
  ⟨line.productCode, line.quantity, line.unitPrice.amount⟩

/-- A line of the order as Billing reads it. -/
def billedLine (line : OrderLine) : Billing.InvoiceLine :=
  ⟨line.productCode, line.quantity, line.unitPrice⟩

/-- Both services add the same line totals up. -/
theorem addLineTotals_eq_sumAmounts (sum : Money) (lines : List OrderLine) :
    Billing.Invoice.addLineTotals sum (lines.map billedLine) =
      sumAmounts sum lines := by
  induction lines generalizing sum with
  | nil => rfl
  | cons line rest inductionHypothesis =>
      simp only [List.map_cons, Billing.Invoice.addLineTotals, sumAmounts,
        Billing.InvoiceLine.lineTotal, billedLine, inductionHypothesis]

theorem natAbs_le_of_isMoney {amount : Int} {currency : String} {money : Money}
    (accepted : Money.of amount currency = .ok money) :
    amount.natAbs ≤ Money.maxSafeInteger := by
  unfold Money.of at accepted
  split at accepted
  · assumption
  · cases accepted

/-- A price that can be multiplied is an amount of money itself. -/
theorem isMoney_of_multiply {price total : Money} {quantity : Quantity}
    (multiplied : price.multiply quantity = .ok total) :
    Money.of price.amount price.currency.text = .ok price := by
  have bound := natAbs_le_of_isMoney multiplied
  rw [Int.natAbs_mul] at bound
  have least : price.amount.natAbs ≤
      price.amount.natAbs * (quantity.value : Int).natAbs := by
    apply Nat.le_mul_of_pos_right
    rw [Int.natAbs_natCast]
    exact quantity.positive
  rw [Money.of_text]
  exact if_pos (Nat.le_trans least bound)

/-- Every line of a total that was summed up reads back at Billing. -/
theorem requestLines_sentLine {currency : CurrencyCode} {sum total : Money}
    {lines : List OrderLine} (summed : sumAmounts sum lines = .ok total)
    (ofCurrency : ∀ line ∈ lines, line.unitPrice.currency = currency) :
    Billing.BillingDb.requestLines currency.text (lines.map sentLine) =
      .ok (lines.map billedLine) := by
  induction lines generalizing sum with
  | nil => rfl
  | cons line rest inductionHypothesis =>
      rcases bind_eq_ok_iff.mp summed with ⟨lineTotal, multiplied, summed⟩
      rcases bind_eq_ok_iff.mp summed with ⟨next, _, summed⟩
      have isMoney := isMoney_of_multiply multiplied
      rw [ofCurrency line List.mem_cons_self] at isMoney
      rw [List.map_cons, Billing.BillingDb.requestLines]
      apply bind_eq_ok_iff.mpr
      refine ⟨line.unitPrice, isMoney, bind_eq_ok_iff.mpr
        ⟨rest.map billedLine, ?_, rfl⟩⟩
      exact inductionHypothesis summed fun other otherMem =>
        ofCurrency other (List.mem_cons_of_mem line otherMem)

/-- The lines of a placed order are in its currency. -/
theorem currency_of_place {newId : Nat → UniqueId} {input : PlaceOrderInput}
    {order : Order} (placed : Order.place newId input = .ok order) :
    ∀ line ∈ order.props.lines, line.unitPrice.currency.text = input.currency := by
  have currencies : ∀ lines : List PlaceOrderLineInput,
      assertLineCurrencies input.orderReference input.currency lines = .ok () →
        ∀ line ∈ lines, line.unitPrice.currency.text = input.currency := by
    intro lines checked
    induction lines with
    | nil => exact List.forall_mem_nil _
    | cons first rest inductionHypothesis =>
        simp only [assertLineCurrencies, ite_error_eq_ok_iff, not_not] at checked
        rw [List.forall_mem_cons]
        exact ⟨checked.1, inductionHypothesis checked.2.2⟩
  simp only [Order.place, ite_error_eq_ok_iff] at placed
  rcases placed with ⟨_, placed⟩
  rcases bind_eq_ok_iff.mp placed with ⟨⟨⟩, checked, placed⟩
  rcases bind_eq_ok_iff.mp placed with ⟨totals, _, placed⟩
  cases placed
  intro line lineMem
  rcases List.mem_mapIdx.mp lineMem with ⟨index, bound, rfl⟩
  exact currencies _ checked _ (List.getElem_mem bound)

/-- The lines of a placed order have the amounts that were validated. -/
theorem nonneg_of_place {newId : Nat → UniqueId} {input : PlaceOrderInput}
    {order : Order} (placed : Order.place newId input = .ok order)
    (validated : ValidatedLines input.lines) :
    ∀ line ∈ order.props.lines,
      0 ≤ line.unitPrice.amount ∧ 0 ≤ line.lineDiscount.amount := by
  rcases Order.place_eq_ok placed with ⟨_, _, _, _, created, _⟩
  rw [created]
  intro line lineMem
  rcases List.mem_mapIdx.mp lineMem with ⟨index, bound, rfl⟩
  exact validated _ (List.getElem_mem bound)

/-- The amount of the lines is `Σ unitPrice × quantity`. -/
theorem sumAmounts_amount {sum total : Money} {lines : List OrderLine}
    (summed : sumAmounts sum lines = .ok total) :
    total.amount = sum.amount + computedAmount (lines.map sentLine) := by
  induction lines generalizing sum with
  | nil =>
      cases summed
      exact (Int.add_zero _).symm
  | cons line rest inductionHypothesis =>
      rcases bind_eq_ok_iff.mp summed with ⟨lineTotal, multiplied, summed⟩
      rcases bind_eq_ok_iff.mp summed with ⟨next, added, summed⟩
      rw [inductionHypothesis summed, (Money.add_eq_ok added).2,
        Money.of_text_eq_ok multiplied]
      simp only [computedAmount, List.map_cons, List.sum_cons, sentLine]
      omega

/-- Discounts that are not negative do not add up to a negative one. -/
theorem sumDiscounts_nonneg {sum total : Money} {lines : List OrderLine}
    (summed : sumDiscounts sum lines = .ok total) (nonneg : 0 ≤ sum.amount)
    (discounts : ∀ line ∈ lines, 0 ≤ line.lineDiscount.amount) :
    0 ≤ total.amount := by
  induction lines generalizing sum with
  | nil =>
      cases summed
      exact nonneg
  | cons line rest inductionHypothesis =>
      rcases bind_eq_ok_iff.mp summed with ⟨next, added, summed⟩
      rw [List.forall_mem_cons] at discounts
      apply inductionHypothesis summed _ discounts.2
      rw [(Money.add_eq_ok added).2]
      exact Int.add_nonneg nonneg discounts.1

/-! ## The payloads of a placed order -/

/-- The credit hold Orders owes for an order. -/
def holdRequestOf (props : OrderProps) : CreditHoldRequest :=
  ⟨props.orderReference, props.retailerCode, props.companyCode, props.totalAmount⟩

/-- The invoicing Orders owes for an order. -/
def invoiceRequestOf (props : OrderProps) : InvoiceIssueRequest :=
  ⟨props.orderReference, props.retailerCode, props.companyCode, props.currency,
    props.lines.map sentLine, props.initialDiscount.amount⟩

/-- The totals of an order are those of its lines, in its currency. -/
structure Totalled (props : OrderProps) : Prop where
  lines : props.lines ≠ []
  computed : computeOrderTotals props.orderReference props.currency props.lines =
    .ok ⟨props.initialAmount, props.initialDiscount, props.totalAmount⟩
  currency : props.totalAmount.currency.text = props.currency
  ofCurrency : ∀ line ∈ props.lines,
    line.unitPrice.currency = props.totalAmount.currency

theorem totalled_of_place {newId : Nat → UniqueId} {input : PlaceOrderInput}
    {order : Order} (placed : Order.place newId input = .ok order) :
    Totalled order.props := by
  rcases Order.place_eq_ok placed with
    ⟨reference, _, _, currency, created, notEmpty, computed, _⟩
  have lines : order.props.lines ≠ [] := by
    rw [created]
    intro none
    apply notEmpty
    simpa [createLines] using none
  have validated : validateCurrency input.currency =
      .ok order.props.totalAmount.currency := (computeOrderTotals_eq_ok computed).1
  have ofCurrency : ∀ line ∈ order.props.lines,
      line.unitPrice.currency = order.props.totalAmount.currency := by
    intro line lineMem
    rw [← currency_of_place placed line lineMem, validateCurrency_text] at validated
    exact Except.ok.inj validated
  constructor
  · exact lines
  · rw [reference, currency, created]
    exact computed
  · rcases List.exists_mem_of_ne_nil _ lines with ⟨line, lineMem⟩
    rw [← ofCurrency line lineMem, currency]
    exact currency_of_place placed line lineMem
  · exact ofCurrency

/-- The step table's payloads are these. -/
theorem payloads_of_totalled {props : OrderProps} (totalled : Totalled props)
    (fact : Envelope) :
    buildSagaCommandPayload .creditHold props fact =
        .ok (.creditHold (holdRequestOf props)) ∧
      buildSagaCommandPayload .invoiceIssue props fact =
        .ok (.invoiceIssue (invoiceRequestOf props)) := by
  constructor
  · rfl
  · unfold buildSagaCommandPayload nonEmptyInvoiceLines
    rw [if_neg totalled.lines]
    rfl

namespace Totalled

variable {props : OrderProps}

/-- The computation of the totals, step by step. -/
theorem steps (totalled : Totalled props) :
    sumAmounts ⟨0, props.totalAmount.currency⟩ props.lines =
        .ok props.initialAmount ∧
      (∃ lineDiscounts,
        sumDiscounts ⟨0, props.totalAmount.currency⟩ props.lines =
            .ok lineDiscounts ∧
          lineDiscounts.add ⟨0, props.totalAmount.currency⟩ =
            .ok props.initialDiscount) ∧
        props.initialAmount.subtract props.initialDiscount =
          .ok props.totalAmount ∧
          0 ≤ props.totalAmount.amount := by
  have computed := totalled.computed
  have isZero : Money.zero props.currency = .ok ⟨0, props.totalAmount.currency⟩ :=
    Money.zero_eq_ok_iff.mpr ⟨_, (computeOrderTotals_eq_ok computed).1, rfl⟩
  simp only [computeOrderTotals, isZero, bind_eq_ok_iff, mapError_eq_ok_iff,
    ite_error_eq_ok_iff, Except.ok.injEq, exists_eq_left', OrderTotals.mk.injEq]
    at computed
  rcases computed with
    ⟨_, summed, lineDiscounts, discounts, _, added, _, subtracted, notNegative,
      rfl, rfl, rfl⟩
  refine ⟨summed, ⟨lineDiscounts, discounts, added⟩, subtracted, ?_⟩
  simpa [Money.isNegative] using notNegative

/-- The discount reads back at Billing as the order's. -/
theorem isMoney_discount (totalled : Totalled props) :
    Money.of props.initialDiscount.amount props.totalAmount.currency.text =
      .ok props.initialDiscount := by
  rcases totalled.steps with ⟨summed, ⟨lineDiscounts, _, added⟩, subtracted, _⟩
  have ofAmount := currency_of_sumAmounts summed
  rcases Money.subtract_eq_ok subtracted with ⟨sameCurrency, _⟩
  rw [ofAmount] at sameCurrency
  have bound : props.initialDiscount.amount.natAbs ≤ Money.maxSafeInteger := by
    unfold Money.add at added
    split at added
    · have bound := natAbs_le_of_isMoney added
      rw [Money.of_text_eq_ok added]
      exact bound
    · cases added
  rw [Money.of_text, if_pos bound]
  exact congrArg Except.ok (congrArg (Money.mk _) sameCurrency.symm)

/-- The payload passes the checks Billing makes before it handles it. -/
theorem dto (totalled : Totalled props)
    (nonneg : ∀ line ∈ props.lines,
      0 ≤ line.unitPrice.amount ∧ 0 ≤ line.lineDiscount.amount) :
    InvoiceIssueRequestDto (invoiceRequestOf props) := by
  rcases totalled.steps with
    ⟨summed, ⟨lineDiscounts, discounts, added⟩, subtracted, notNegative⟩
  have discountAmount := congrArg Money.amount (Money.add_eq_ok added).2
  have amount := sumAmounts_amount summed
  have totalAmount := congrArg Money.amount (Money.subtract_eq_ok subtracted).2
  have notNegativeDiscount := sumDiscounts_nonneg discounts (Int.le_refl 0)
    fun line lineMem => (nonneg line lineMem).2
  simp only [Int.add_zero, Int.zero_add] at discountAmount amount
  constructor
  · intro none
    exact totalled.lines (List.map_eq_nil_iff.mp none)
  · intro line lineMem
    rcases List.mem_map.mp lineMem with ⟨given, givenMem, rfl⟩
    exact (nonneg given givenMem).1
  · simp only [invoiceRequestOf]
    omega
  · simp only [invoiceRequestOf] at totalAmount notNegative ⊢
    omega

/-- Billing issues the invoice, over the order's total. -/
theorem issue_isOk (totalled : Totalled props) (id : UniqueId)
    (invoiceReference : Nat) :
    ∃ invoice, Billing.Invoice.issue
        { id := id
          invoiceReference := invoiceReference
          orderReference := props.orderReference
          retailerCode := props.retailerCode
          companyCode := props.companyCode
          currency := props.totalAmount.currency
          lines := props.lines.map billedLine
          discount := props.initialDiscount } = .ok invoice ∧
      invoice.totalAmount = props.totalAmount ∧
        invoice.currency = props.totalAmount.currency := by
  rcases totalled.steps with ⟨summed, _, subtracted, notNegative⟩
  have checked : Billing.Invoice.assertLineCurrency props.totalAmount.currency
      (props.lines.map billedLine) = .ok () := by
    have ofCurrency := totalled.ofCurrency
    generalize props.lines = lines at ofCurrency
    induction lines with
    | nil => rfl
    | cons line rest inductionHypothesis =>
        rw [List.forall_mem_cons] at ofCurrency
        simp only [List.map_cons, Billing.Invoice.assertLineCurrency,
          ite_error_eq_ok_iff, billedLine, not_not]
        exact ⟨ofCurrency.1, inductionHypothesis ofCurrency.2⟩
  have notEmpty : ¬ props.lines.map billedLine = [] := by
    intro none
    exact totalled.lines (List.map_eq_nil_iff.mp none)
  have isNotNegative : ¬ props.totalAmount.isNegative = true := by
    simpa [Money.isNegative] using notNegative
  have totals : Billing.Invoice.addLineTotals ⟨0, props.totalAmount.currency⟩
      (props.lines.map billedLine) = .ok props.initialAmount :=
    (addLineTotals_eq_sumAmounts _ _).trans summed
  unfold Billing.Invoice.issue
  simp only [if_neg notEmpty, bind, Except.bind, checked, totals, Except.mapError,
    subtracted, if_neg isNotNegative]
  exact ⟨_, rfl, rfl, rfl⟩

end Totalled

end OrderToCash.Saga
