import OrderToCash.Orders.OrderSums

/-!
# The stored form of an order

The tables do not keep an order as it was placed: they name its parties by
identifier, and its lines are rows in no order of their own.  A load gives the
parties back by their codes as the reference tables spell them, and the lines as
the rows are read.
-/

namespace OrderToCash.Orders

open OrderToCash.Checked
open OrderToCash.Contracts
open OrderToCash.Kernel

/-- What a load has from the tables rather than from the order that was placed. -/
structure StoredForm where
  retailerCode : String
  companyCode : String
  lines : List OrderLine
deriving DecidableEq, Repr

namespace StoredForm

/-- The order as it is loaded. -/
def row (form : StoredForm) (props : OrderProps) : OrderProps :=
  { props with
    retailerCode := form.retailerCode
    companyCode := form.companyCode
    lines := form.lines }

/-- The lines are those of the order, and in the order they are read in they have
totals. -/
structure Fits (form : StoredForm) (props : OrderProps) : Prop where
  lines : form.lines.Perm props.lines
  loads : (Order.reconstitute (form.row props)).isOk = true

instance (form : StoredForm) (props : OrderProps) : Decidable (form.Fits props) :=
  decidable_of_iff
    (form.lines.Perm props.lines ∧ (Order.reconstitute (form.row props)).isOk = true)
    ⟨fun ⟨lines, loads⟩ => ⟨lines, loads⟩, fun ⟨lines, loads⟩ => ⟨lines, loads⟩⟩

section Row

variable (form : StoredForm) (props : OrderProps)

@[simp]
theorem row_orderReference : (form.row props).orderReference = props.orderReference :=
  rfl

@[simp]
theorem row_status : (form.row props).status = props.status :=
  rfl

@[simp]
theorem row_cancellationReason :
    (form.row props).cancellationReason = props.cancellationReason :=
  rfl

@[simp]
theorem row_lines : (form.row props).lines = form.lines :=
  rfl

end Row

/-- The lines of a form that fits have the totals of the order. -/
theorem Fits.computed {form : StoredForm} {props : OrderProps} (fits : form.Fits props)
    {totals : OrderTotals}
    (computed : computeOrderTotals props.orderReference props.currency props.lines =
      .ok totals) :
    computeOrderTotals props.orderReference props.currency form.lines = .ok totals := by
  have loads := fits.loads
  cases rebuilt : Order.reconstitute (form.row props) with
  | error error =>
      rw [rebuilt] at loads
      cases loads
  | ok loaded =>
      rcases Order.reconstitute_eq_ok rebuilt with ⟨found, added, _⟩
      have added : computeOrderTotals props.orderReference props.currency form.lines =
        .ok found := added
      rw [added, ((computeOrderTotals_perm fits.lines computed found).mp added).2]

/-- Where no amount is negative, a placed order can be loaded in any form that has
its lines. -/
theorem fits_of_nonneg {newId : Nat → UniqueId} {input : PlaceOrderInput}
    {created : Order} (placed : Order.place newId input = .ok created)
    {form : StoredForm} (lines : form.lines.Perm created.props.lines)
    (nonneg : ∀ line ∈ created.props.lines,
      0 ≤ line.unitPrice.amount ∧ 0 ≤ line.lineDiscount.amount) :
    form.Fits created.props where
  lines := lines
  loads := by
    rcases Order.place_eq_ok placed with
      ⟨reference, status, reason, currency, isCreated, notEmpty, computed, _⟩
    rw [← isCreated, ← reference, ← currency] at computed
    rcases addable_of_computeOrderTotals computed with ⟨code, validated, addable⟩
    have summed := ((computeOrderTotals_eq_ok_iff validated addable).mp computed).1
    have read := safelySummed_of_nonneg lines summed nonneg
    have again := (computeOrderTotals_perm lines computed _).mpr ⟨read, rfl⟩
    have some : form.lines ≠ [] := by
      intro none
      apply notEmpty
      rw [none, List.nil_perm, isCreated] at lines
      simpa [createLines] using lines
    have rebuilt : Order.reconstitute (form.row created.props) =
        .ok ⟨form.row created.props, []⟩ := by
      apply Order.reconstitute_eq_ok_iff.mpr
      exact ⟨some, by simp [status], by simp [reason], _, again, rfl⟩
    rw [rebuilt]
    rfl

end StoredForm

end OrderToCash.Orders
