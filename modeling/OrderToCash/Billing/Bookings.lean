import OrderToCash.Billing.LineBalance

/-!
# The invoice and payment tables

What the service keeps true of them over every run.  Every stored invoice can
be rebuilt from its row, an invoice is paid exactly when a payment names it, and
neither an invoice nor a payment reference has two payments.
-/

namespace OrderToCash.Billing

open OrderToCash.Checked
open OrderToCash.Contracts
open OrderToCash.Kernel
open OrderToCash.Table
open OrderToCash.Transition

/-! ## Rebuilding an invoice -/

namespace Invoice

theorem currency_of_assertLineCurrency {currency : CurrencyCode}
    {lines : List InvoiceLine} (checked : assertLineCurrency currency lines = .ok ()) :
    ∀ line ∈ lines, line.unitPrice.currency = currency := by
  induction lines with
  | nil => exact List.forall_mem_nil _
  | cons first rest inductionHypothesis =>
      simp only [assertLineCurrency, ite_error_eq_ok_iff, not_not] at checked
      rw [List.forall_mem_cons]
      constructor
      · exact checked.1
      · exact inductionHypothesis checked.2

theorem currency_of_addLineTotals {sum total : Money} {lines : List InvoiceLine}
    (added : addLineTotals sum lines = .ok total) :
    total.currency = sum.currency := by
  induction lines generalizing sum with
  | nil =>
      cases added
      rfl
  | cons line rest inductionHypothesis =>
      rcases bind_eq_ok_iff.mp added with ⟨lineTotal, _, added⟩
      rcases bind_eq_ok_iff.mp added with ⟨sum', isSum, added⟩
      rw [inductionHypothesis added, (Money.add_eq_ok isSum).2]

/-- Rebuilding does not look at the status. -/
theorem reconstitute_status {invoice : Invoice}
    (rebuilds : invoice.reconstitute = .ok invoice) (status : InvoiceStatus) :
    ({ invoice with status := status } : Invoice).reconstitute =
      .ok { invoice with status := status } := by
  unfold reconstitute at rebuilds ⊢
  simp only [ite_error_eq_ok_iff] at rebuilds ⊢
  rcases rebuilds with ⟨sameCurrency, rebuilds⟩
  rcases bind_eq_ok_iff.mp rebuilds with ⟨amount, isAmount, rebuilds⟩
  simp only [ite_error_eq_ok_iff] at rebuilds
  rcases rebuilds with ⟨sameAmount, rebuilds⟩
  rcases bind_eq_ok_iff.mp rebuilds with ⟨total, isTotal, rebuilds⟩
  simp only [ite_error_eq_ok_iff, Except.ok.injEq] at rebuilds
  rcases rebuilds with ⟨sameTotal, same⟩
  have noEvents : invoice.domainEvents = [] := by
    rw [← same]
  refine ⟨sameCurrency, bind_eq_ok_iff.mpr ⟨amount, isAmount, ?_⟩⟩
  simp only [ite_error_eq_ok_iff]
  refine ⟨sameAmount, bind_eq_ok_iff.mpr ⟨total, isTotal, ?_⟩⟩
  simp only [ite_error_eq_ok_iff, Except.ok.injEq]
  exact ⟨sameTotal, by rw [noEvents]⟩

/-- An invoice reads back from its row as it was issued. -/
theorem toInvoiceSnapshot_of_issue {input : IssueInvoiceInput} {invoice : Invoice}
    (issued : issue input = .ok invoice) :
    (toInvoiceRow invoice).toInvoiceSnapshot =
        { invoice with domainEvents := [] } ∧
      ({ invoice with domainEvents := [] } : Invoice).reconstitute =
        .ok { invoice with domainEvents := [] } := by
  simp only [issue, ite_error_eq_ok_iff] at issued
  rcases issued with ⟨_, issued⟩
  rcases bind_eq_ok_iff.mp issued with ⟨⟨⟩, checked, issued⟩
  rcases bind_eq_ok_iff.mp issued with ⟨amount, isAmount, issued⟩
  rcases bind_eq_ok_iff.mp issued with ⟨total, isTotal, issued⟩
  simp only [ite_error_eq_ok_iff, Except.ok.injEq] at issued
  rcases issued with ⟨_, rfl⟩
  have ofLines := currency_of_assertLineCurrency checked
  have ofAmount : amount.currency = input.currency :=
    currency_of_addLineTotals (mapError_eq_ok_iff.mp isAmount)
  rcases Money.subtract_eq_ok (mapError_eq_ok_iff.mp isTotal) with
    ⟨ofDiscount, rfl⟩
  constructor
  · have lines : input.lines.map (fun line =>
        (⟨line.productCode, line.units,
          ⟨line.unitPrice.amount, input.currency⟩⟩ : InvoiceLine)) =
            input.lines := by
      conv_rhs => rw [← List.map_id input.lines]
      apply List.map_congr_left
      intro line lineMem
      rw [← ofLines line lineMem]
      rfl
    have sameAmount : (⟨amount.amount, input.currency⟩ : Money) = amount := by
      rw [← ofAmount]
    have sameDiscount :
        (⟨input.discount.amount, input.currency⟩ : Money) = input.discount := by
      rw [← ofAmount, ← ofDiscount]
    simp only [InvoiceRow.toInvoiceSnapshot, toInvoiceRow, List.map_map,
      Function.comp_def, lines, sameAmount, sameDiscount, ofAmount]
  · have sameCurrency : ¬ input.lines.any
        (fun line => decide (line.unitPrice.currency ≠ input.currency)) = true := by
      rw [List.any_eq_true]
      rintro ⟨line, lineMem, differs⟩
      exact of_decide_eq_true differs (ofLines line lineMem)
    unfold reconstitute
    simp only [ite_error_eq_ok_iff]
    refine ⟨sameCurrency, bind_eq_ok_iff.mpr ⟨amount, isAmount, ?_⟩⟩
    simp only [ite_error_eq_ok_iff]
    refine ⟨not_not.mpr rfl, bind_eq_ok_iff.mpr ⟨_, isTotal, ?_⟩⟩
    simp only [ite_error_eq_ok_iff]
    exact ⟨not_not.mpr rfl, trivial⟩

end Invoice

namespace BillingDb

/-! ## The tables of a run -/

/-- What the invoice and payment tables keep to. -/
structure Booked (db : BillingDb) : Prop where
  rebuilds : ∀ row ∈ db.invoices,
    row.toInvoiceSnapshot.reconstitute = .ok row.toInvoiceSnapshot
  located : ∀ row ∈ db.invoices, ∃ line,
    db.findCredit row.retailerCode row.companyCode = some line
  references : (db.invoices.map InvoiceRow.invoiceReference).Nodup
  numbered : ∀ row ∈ db.invoices, row.invoiceReference < db.nextInvoiceNumber
  paidBy : ∀ row ∈ db.invoices,
    row.status = .paid ↔ row.id ∈ db.payments.map PaymentRow.invoiceId
  onePayment : (db.payments.map PaymentRow.invoiceId).Nodup
  onceReferenced : (db.payments.map (·.paymentReference.weight)).Nodup

/-- Ledger rows and facts leave the tables as they are. -/
theorem Booked.posted {db : BillingDb} (booked : db.Booked) (count : Nat)
    (rows : List CreditItemRow) (facts : List Fact) :
    ((db.generated count).posted rows facts).Booked where
  rebuilds := booked.rebuilds
  located := booked.located
  references := booked.references
  numbered := booked.numbered
  paidBy := booked.paidBy
  onePayment := booked.onePayment
  onceReferenced := booked.onceReferenced

/-- An invoice with the next reference, which no payment names. -/
theorem Booked.afterIssue {db : BillingDb} (booked : db.Booked) (sound : db.Sound)
    {invoice : InvoiceRow} (line : CreditRow) (payload : InvoiceIssuedPayload)
    (rebuilds : invoice.toInvoiceSnapshot.reconstitute =
      .ok invoice.toInvoiceSnapshot)
    (found : db.findCredit invoice.retailerCode invoice.companyCode = some line)
    (identifier : invoice.id = db.newId 0)
    (reference : invoice.invoiceReference = db.nextInvoiceNumber)
    (isIssued : invoice.status = .issued) :
    (db.afterIssue invoice line payload).Booked where
  rebuilds := by
    intro row rowMem
    rcases List.mem_append.mp rowMem with old | new
    · exact booked.rebuilds row old
    · rw [List.mem_singleton.mp new]
      exact rebuilds
  located := by
    intro row rowMem
    rcases List.mem_append.mp rowMem with old | new
    · exact booked.located row old
    · rw [List.mem_singleton.mp new]
      exact ⟨line, found⟩
  references := by
    have fresh : invoice.invoiceReference ∉
        db.invoices.map InvoiceRow.invoiceReference := by
      intro listed
      rcases List.mem_map.mp listed with ⟨row, rowMem, same⟩
      have before := booked.numbered row rowMem
      rw [same, reference] at before
      exact absurd before (Nat.lt_irrefl _)
    simp only [BillingDb.afterIssue, List.map_append, List.map_singleton]
    simpa using List.Nodup.concat fresh booked.references
  numbered := by
    intro row rowMem
    rcases List.mem_append.mp rowMem with old | new
    · exact Nat.lt_succ_of_lt (booked.numbered row old)
    · rw [List.mem_singleton.mp new, reference]
      exact Nat.lt_succ_self _
  paidBy := by
    intro row rowMem
    rcases List.mem_append.mp rowMem with old | new
    · exact booked.paidBy row old
    · rw [List.mem_singleton.mp new, isIssued]
      constructor
      · intro absurdity
        cases absurdity
      · intro listed
        rcases List.mem_map.mp listed with ⟨payment, paymentMem, same⟩
        rcases List.mem_map.mp (sound.ofInvoice payment paymentMem) with
          ⟨other, otherMem, otherId⟩
        have generated := sound.invoiceGenerated other otherMem
        rw [otherId, same, identifier] at generated
        exact absurd generated (Nat.lt_irrefl db.nextId)
  onePayment := booked.onePayment
  onceReferenced := booked.onceReferenced

/-- A payment of an unpaid invoice, with a new reference. -/
theorem Booked.afterPayment {db : BillingDb} (booked : db.Booked)
    {locked : InvoiceRow} {payment : PaymentRow} {paymentReference : PaymentReference}
    (lockedMem : locked ∈ db.invoices) (unpaid : locked.status = .issued)
    (first : db.findPaymentByReference paymentReference = none)
    (reference : payment.paymentReference = paymentReference)
    (ofInvoice : payment.invoiceId = locked.id) (rows : List CreditItemRow)
    (facts : List Fact) : (db.afterPayment locked.id payment rows facts).Booked where
  rebuilds := by
    intro row rowMem
    rcases List.mem_map.mp rowMem with ⟨before, beforeMem, rfl⟩
    split
    · exact Invoice.reconstitute_status (booked.rebuilds before beforeMem) .paid
    · exact booked.rebuilds before beforeMem
  located := by
    intro row rowMem
    rcases List.mem_map.mp rowMem with ⟨before, beforeMem, rfl⟩
    rcases booked.located before beforeMem with ⟨line, found⟩
    refine ⟨line, ?_⟩
    split
    · exact found
    · exact found
  references := by
    have same : ((db.afterPayment locked.id payment rows facts).invoices.map
        InvoiceRow.invoiceReference) =
          db.invoices.map InvoiceRow.invoiceReference := by
      simp only [BillingDb.afterPayment, List.map_map]
      apply List.map_congr_left
      intro row _
      simp only [Function.comp_apply]
      split <;> rfl
    rw [same]
    exact booked.references
  numbered := by
    intro row rowMem
    rcases List.mem_map.mp rowMem with ⟨before, beforeMem, rfl⟩
    have number := booked.numbered before beforeMem
    split
    · exact number
    · exact number
  paidBy := by
    intro row rowMem
    rcases List.mem_map.mp rowMem with ⟨before, beforeMem, rfl⟩
    have paidBy := booked.paidBy before beforeMem
    simp only [BillingDb.afterPayment, List.map_append, List.map_singleton,
      List.mem_append, List.mem_singleton, ofInvoice]
    split
    · rename_i same
      simp [same]
    · rename_i differs
      simpa [differs] using paidBy
  onePayment := by
    have fresh : payment.invoiceId ∉ db.payments.map PaymentRow.invoiceId := by
      intro listed
      rw [ofInvoice, ← booked.paidBy locked lockedMem, unpaid] at listed
      cases listed
    simp only [BillingDb.afterPayment, List.map_append, List.map_singleton]
    simpa using List.Nodup.concat fresh booked.onePayment
  onceReferenced := by
    have fresh : payment.paymentReference.weight ∉
        db.payments.map (·.paymentReference.weight) := by
      intro listed
      rcases List.mem_map.mp listed with ⟨other, otherMem, same⟩
      rw [findPaymentByReference, List.find?_eq_none] at first
      rw [reference] at same
      exact first other otherMem (decide_eq_true same)
    simp only [BillingDb.afterPayment, List.map_append, List.map_singleton]
    simpa using List.Nodup.concat fresh booked.onceReferenced

/-- What an invoicing stores can be rebuilt. -/
theorem issueInvoice_rebuilds {db db' : BillingDb} {request : InvoiceIssueRequest}
    {reply : BillingReply} (result : db.issueInvoice request = .ok (db', reply)) :
    ∀ row ∈ db'.invoices, row ∈ db.invoices ∨
      row.toInvoiceSnapshot.reconstitute = .ok row.toInvoiceSnapshot := by
  unfold issueInvoice at result
  rcases bind_eq_ok_iff.mp result with ⟨credit, _, result⟩
  split at result
  · cases result
    exact fun row rowMem => Or.inl rowMem
  · simp only [ite_error_eq_ok_iff] at result
    rcases result with ⟨_, _, result⟩
    rcases bind_eq_ok_iff.mp result with ⟨lines, _, result⟩
    rcases bind_eq_ok_iff.mp result with ⟨discount, _, result⟩
    rcases bind_eq_ok_iff.mp result with ⟨invoice, issued, result⟩
    rcases bind_eq_ok_iff.mp result with ⟨credit', _, result⟩
    rcases bind_eq_ok_iff.mp result with ⟨saved, savedInvoice, result⟩
    simp only [saveInvoice, ite_error_eq_ok_iff, Except.ok.injEq] at savedInvoice
    rcases savedInvoice with ⟨_, rfl⟩
    cases result
    intro row rowMem
    rcases List.mem_append.mp rowMem with old | new
    · exact Or.inl old
    · rw [List.mem_singleton.mp new, (Invoice.toInvoiceSnapshot_of_issue issued).1]
      exact Or.inr (Invoice.toInvoiceSnapshot_of_issue issued).2

end BillingDb

namespace BillingSystem

open BillingDb

theorem booked_initial (catalogue : CreditCatalogue) :
    (initial catalogue).db.Booked where
  rebuilds := List.forall_mem_nil _
  located := List.forall_mem_nil _
  references := List.nodup_nil
  numbered := List.forall_mem_nil _
  paidBy := List.forall_mem_nil _
  onePayment := List.nodup_nil
  onceReferenced := List.nodup_nil

theorem booked_transaction {db db' : BillingDb} {drawn : Bool} {call : BillingCall}
    {reply : BillingReply} (booked : db.Booked) (sound : db.Sound)
    (result : transaction db drawn call = some (.ok (db', reply))) :
    db'.Booked := by
  cases call with
  | creditHold request =>
      rcases hold_effect (Option.some.inj result) with ⟨line, found, effect⟩
      cases effect with
      | repeated held => exact booked
      | refused payload => exact booked.posted 0 [] [.creditRejected payload]
      | approved => exact booked.posted 1 _ _
  | creditRelease request =>
      rcases releaseCredit_effect (Option.some.inj result) with
        ⟨line, rows, facts, count, found, effect, rfl⟩
      exact booked.posted count rows facts
  | invoiceIssue request =>
      have rebuilt := issueInvoice_rebuilds (Option.some.inj result)
      rcases issueInvoice_effect (Option.some.inj result) with
        ⟨line, found, effect⟩
      cases effect with
      | repeated existing => exact booked
      | issued invoice payload first held identifier reference ofOrder ofLine
          isIssued =>
          have rebuilds : invoice.toInvoiceSnapshot.reconstitute =
              .ok invoice.toInvoiceSnapshot := by
            rcases rebuilt invoice (List.mem_append_right _
              (List.mem_singleton_self invoice)) with old | rebuilds
            · exact booked.rebuilds invoice old
            · exact rebuilds
          rw [← ofLine.1, ← ofLine.2] at found
          exact booked.afterIssue sound line payload rebuilds found identifier
            reference isIssued
  | paymentLooked request => cases result
  | paymentRegister request snapshot =>
      rcases registerPayment_effect (Option.some.inj result) with
        ⟨line, foundLine, effect⟩
      cases effect with
      | repeated => exact booked
      | paid locked payment payload rows facts found unpaid first reference
          ofInvoice =>
          exact booked.afterPayment (List.mem_of_find?_eq_some found) unpaid first
            reference ofInvoice rows _

end BillingSystem

end OrderToCash.Billing
