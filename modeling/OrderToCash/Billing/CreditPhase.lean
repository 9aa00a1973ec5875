import OrderToCash.Billing.OrderView

/-!
# The phases of an order's credit

An order's ledger rows, invoice, payment and facts move together: from a hold
over its invoice to the release that a cancellation or the payment brings.  An
order is always in one of seven phases, and a phase says exactly what the order
has left behind.
-/

namespace OrderToCash.Billing

open OrderToCash.Contracts
open OrderToCash.Kernel
open OrderToCash.Transition

inductive CreditPhase
  | unheld
  | held
  | invoiced
  /-- Released for a cancellation before an invoice was issued. -/
  | returned
  /-- Released for a cancellation after an invoice was issued. -/
  | invoicedReturned
  | paid
  /-- Paid after the hold was released for a cancellation. -/
  | paidReturned
deriving DecidableEq, Repr

/-- The effects an order's facts tell of; a rejection has none. -/
inductive CreditMark
  | approved
  | invoiceIssued
  | paymentReceived
  | released (reason : CreditReleaseReason)
deriving DecidableEq, Repr

def markOf? : Fact → Option CreditMark
  | .creditApproved _ => some .approved
  | .invoiceIssued _ => some .invoiceIssued
  | .paymentReceived _ => some .paymentReceived
  | .creditReleased payload => some (.released payload.reason)
  | _ => none

def CreditMark.eventType : CreditMark → EventType
  | .approved => .creditApproved
  | .invoiceIssued => .invoiceIssued
  | .paymentReceived => .paymentReceived
  | .released _ => .creditReleased

/-- The facts that leave a mark. -/
def markedTypes : List EventType :=
  [.creditApproved, .invoiceIssued, .paymentReceived, .creditReleased]

/-- What an order has left behind in Billing. -/
structure CreditTraces where
  entries : List (CreditEntryType × Int)
  invoices : List InvoiceStatus
  payments : Nat
  marks : List CreditMark
deriving DecidableEq, Repr

namespace OrderCredit

def traces (credit : OrderCredit) : CreditTraces :=
  { entries := credit.items.map fun row => (row.type, row.amount)
    invoices := credit.invoices.map InvoiceRow.status
    payments := credit.payments.length
    marks := credit.facts.filterMap markOf? }

/-- What an order with a hold of some amount has left behind in a phase. -/
def tracesOf (amount : Int) : CreditPhase → CreditTraces
  | .unheld => ⟨[], [], 0, []⟩
  | .held => ⟨[(.hold, amount)], [], 0, [.approved]⟩
  | .invoiced =>
      ⟨[(.hold, amount), (.consume, amount)], [.issued], 0,
        [.approved, .invoiceIssued]⟩
  | .returned =>
      ⟨[(.hold, amount), (.release, amount)], [], 0,
        [.approved, .released .orderCancelled]⟩
  | .invoicedReturned =>
      ⟨[(.hold, amount), (.consume, amount), (.release, amount)], [.issued], 0,
        [.approved, .invoiceIssued, .released .orderCancelled]⟩
  | .paid =>
      ⟨[(.hold, amount), (.consume, amount), (.release, amount)], [.paid], 1,
        [.approved, .invoiceIssued, .paymentReceived, .released .invoicePaid]⟩
  | .paidReturned =>
      ⟨[(.hold, amount), (.consume, amount), (.release, amount)], [.paid], 1,
        [.approved, .invoiceIssued, .released .orderCancelled,
          .paymentReceived]⟩

/-- The order is in the phase; past a mere hold its amount is positive. -/
structure InPhase (credit : OrderCredit) (amount : Int)
    (phase : CreditPhase) : Prop where
  leftBehind : credit.traces = tracesOf amount phase
  positive : phase ≠ .unheld → phase ≠ .held → 0 < amount

def Consistent (credit : OrderCredit) (amount : Int) : Prop :=
  ∃ phase, credit.InPhase amount phase

/-! ## Reading the phase -/

/-- The exposure in a phase. -/
def exposureOf (amount : Int) : CreditPhase → Int
  | .held | .invoiced => amount
  | _ => 0

theorem exposureOfRows_eq_sum (rows : List CreditItemRow) :
    exposureOfRows rows =
      ((rows.map fun row => (row.type, row.amount)).map fun entry =>
        match entry with
        | (.hold, amount) => amount
        | (.release, amount) => -amount
        | (.consume, _) => 0).sum := by
  rw [exposureOfRows, List.map_map]
  congr 1
  refine List.map_congr_left fun row _ => ?_
  simp only [BillingDb.exposureOfRow, Function.comp_apply]
  cases row.type with
  | hold => rfl
  | release => rfl
  | consume => rfl

theorem typedSum_eq_sum (type : CreditEntryType) (rows : List CreditItemRow) :
    typedSum type rows =
      (((rows.map fun row => (row.type, row.amount)).filter
        (·.1 = type)).map Prod.snd).sum := by
  rw [typedSum, List.filter_map, List.map_map]
  rfl

variable {credit : OrderCredit} {amount : Int} {phase : CreditPhase}

theorem InPhase.exposure_eq (inPhase : credit.InPhase amount phase) :
    credit.exposure = exposureOf amount phase := by
  have entries := congrArg CreditTraces.entries inPhase.leftBehind
  simp only [traces] at entries
  rw [exposure, exposureOfRows_eq_sum, entries]
  cases phase <;> simp [tracesOf, exposureOf]

/-- The active hold in a phase. -/
theorem InPhase.activeHold_eq (inPhase : credit.InPhase amount phase) :
    credit.activeHold = if phase = .held then amount - min 0 amount else 0 := by
  have entries := congrArg CreditTraces.entries inPhase.leftBehind
  simp only [traces] at entries
  have exposed := inPhase.exposure_eq
  simp only [exposure] at exposed
  rw [activeHold, activeHoldOfRows, exposed, typedSum_eq_sum, entries]
  cases phase with
  | held => simp [tracesOf, exposureOf]
  | unheld | returned => simp [tracesOf, exposureOf]
  | invoiced => simp [tracesOf, exposureOf]
  | invoicedReturned | paid | paidReturned =>
      have positive := inPhase.positive (by decide) (by decide)
      simp [tracesOf, exposureOf]
      omega

/-- An order has a hold in every phase but the first. -/
theorem InPhase.hasHold_iff (inPhase : credit.InPhase amount phase) :
    credit.HasHold ↔ phase ≠ .unheld := by
  have entries := congrArg CreditTraces.entries inPhase.leftBehind
  simp only [traces] at entries
  have listed : credit.HasHold ↔ ∃ entry ∈ (tracesOf amount phase).entries,
      entry.1 = .hold := by
    rw [← entries]
    simp [HasHold]
  rw [listed]
  cases phase <;> simp [tracesOf]

theorem InPhase.invoices_eq (inPhase : credit.InPhase amount phase) :
    credit.invoices.map InvoiceRow.status = (tracesOf amount phase).invoices :=
  congrArg CreditTraces.invoices inPhase.leftBehind

theorem InPhase.marks_eq (inPhase : credit.InPhase amount phase) :
    credit.facts.filterMap markOf? = (tracesOf amount phase).marks :=
  congrArg CreditTraces.marks inPhase.leftBehind

def emitted (credit : OrderCredit) (eventType : EventType) : Nat :=
  credit.facts.countP (·.eventType = eventType)

theorem emitted_posted (credit : OrderCredit) (rows : List CreditItemRow)
    (facts : List Fact) (eventType : EventType) :
    (credit.posted rows facts).emitted eventType =
      credit.emitted eventType + facts.countP (·.eventType = eventType) := by
  simp [emitted, posted]

/-- A fact of a marked type is its mark. -/
theorem eventType_eq_iff_mark {eventType : EventType}
    (marked : eventType ∈ markedTypes) (fact : Fact) :
    fact.eventType = eventType ↔
      ((markOf? fact).map fun mark =>
        decide (mark.eventType = eventType)).getD false = true := by
  have unmarked : ∀ other, other ∉ markedTypes → other ≠ eventType := by
    rintro other notMarked rfl
    exact notMarked marked
  cases fact with
  | creditApproved | creditReleased | invoiceIssued | paymentReceived =>
      exact decide_eq_true_iff.symm
  | orderPlaced | orderConfirmed | orderCompleted | orderCancelled
  | orderSagaFailed | stockReserved | stockRejected | stockReleased
  | orderDespatched | creditRejected =>
      simpa [markOf?, Fact.eventType] using unmarked _ (by decide)

/-- The facts of a marked type are those of the phase. -/
theorem InPhase.emitted_eq (inPhase : credit.InPhase amount phase)
    {eventType : EventType} (marked : eventType ∈ markedTypes) :
    credit.emitted eventType =
      (tracesOf amount phase).marks.countP (·.eventType = eventType) := by
  rw [← inPhase.marks_eq, List.countP_filterMap, emitted]
  refine List.countP_congr fun fact _ => ?_
  rw [decide_eq_true_iff]
  exact eventType_eq_iff_mark marked fact

/-! ## Moving between the phases -/

/-- What ledger rows and facts add to what an order has left behind. -/
theorem traces_posted (credit : OrderCredit) (rows : List CreditItemRow)
    (facts : List Fact) :
    (credit.posted rows facts).traces =
      { credit.traces with
        entries := credit.traces.entries ++
          rows.map fun row => (row.type, row.amount)
        marks := credit.traces.marks ++ facts.filterMap markOf? } := by
  simp [traces, posted]

/-- A refusal leaves the phase. -/
theorem InPhase.refused (inPhase : credit.InPhase amount phase)
    (payload : CreditRejectedPayload) :
    (credit.posted [] [.creditRejected payload]).InPhase amount phase where
  leftBehind := by
    have none : [Fact.creditRejected payload].filterMap markOf? = [] := rfl
    rw [traces_posted, inPhase.leftBehind, none]
    simp only [List.map_nil, List.append_nil]
  positive := inPhase.positive

theorem InPhase.approved (inPhase : credit.InPhase amount .unheld)
    {row : CreditItemRow} (payload : CreditApprovedPayload)
    (isHold : row.type = .hold) (ofAmount : row.amount = amount) :
    (credit.posted [row] [.creditApproved payload]).InPhase amount .held where
  leftBehind := by
    rw [traces_posted, inPhase.leftBehind]
    simp [markOf?, tracesOf, isHold, ofAmount]
  positive := by simp

/-- The phase a release for a cancellation leads to. -/
def returnedFrom : CreditPhase → CreditPhase
  | .held => .returned
  | .invoiced => .invoicedReturned
  | phase => phase

/-- A release for a cancellation leads on exactly where something is held. -/
theorem InPhase.released (inPhase : credit.InPhase amount phase)
    {rows : List CreditItemRow} {facts : List Fact}
    (release : credit.Release .orderCancelled rows facts) :
    ∃ phase', (credit.posted rows facts).InPhase amount phase' ∧
      (phase' = phase ∧ rows = [] ∨
        phase' = returnedFrom phase ∧ phase' ≠ phase) := by
  cases release with
  | nothing none =>
      refine ⟨phase, ?_, Or.inl ⟨rfl, rfl⟩⟩
      simpa [posted] using inPhase
  | released row payload some isRelease ofAmount sameReason =>
      rw [inPhase.exposure_eq] at some ofAmount
      have next : phase = .held ∨ phase = .invoiced := by
        cases phase with
        | held => exact Or.inl rfl
        | invoiced => exact Or.inr rfl
        | unheld | returned | invoicedReturned | paid | paidReturned =>
            exact absurd some (by simp [exposureOf])
      rcases next with rfl | rfl
      · refine ⟨.returned, ⟨?_, fun _ _ => some⟩, Or.inr ⟨rfl, by decide⟩⟩
        rw [traces_posted, inPhase.leftBehind]
        simp [markOf?, tracesOf, isRelease, ofAmount, exposureOf, sameReason]
      · refine ⟨.invoicedReturned, ⟨?_, fun _ _ => some⟩,
          Or.inr ⟨rfl, by decide⟩⟩
        rw [traces_posted, inPhase.leftBehind]
        simp [markOf?, tracesOf, isRelease, ofAmount, exposureOf, sameReason]

theorem InPhase.issued (inPhase : credit.InPhase amount phase)
    {invoice : InvoiceRow} (payload : InvoiceIssuedPayload) {row : CreditItemRow}
    (active : 0 < credit.activeHold) (isConsume : row.type = .consume)
    (ofAmount : row.amount = credit.activeHold)
    (isIssued : invoice.status = .issued) :
    phase = .held ∧
      ({ credit with invoices := [invoice] }.posted [row]
        [.invoiceIssued payload]).InPhase amount .invoiced := by
  rw [inPhase.activeHold_eq] at active ofAmount
  by_cases isHeld : phase = .held
  · subst isHeld
    have positive : 0 < amount := by
      simp only [if_true] at active
      omega
    have all : row.amount = amount := by
      simp only [if_true] at ofAmount
      omega
    refine ⟨rfl, ?_, fun _ _ => positive⟩
    have before := inPhase.leftBehind
    simp only [traces, tracesOf, CreditTraces.mk.injEq] at before
    simp [traces, posted, tracesOf, before, markOf?, isConsume, all, isIssued]
  · rw [if_neg isHeld] at active
    exact absurd active (by decide)

/-- A payment finds an issued invoice; it releases the hold unless a
cancellation did before. -/
theorem InPhase.paid (inPhase : credit.InPhase amount phase) {locked : InvoiceRow}
    (payment : PaymentRow) (payload : PaymentReceivedPayload)
    {rows : List CreditItemRow} {facts : List Fact}
    (only : credit.invoices = [locked]) (unpaid : locked.status = .issued)
    (release : credit.Release .invoicePaid rows facts) :
    ((credit.withPayment payment).posted rows
        (.paymentReceived payload :: facts)).InPhase amount
      (if phase = .invoiced then .paid else .paidReturned) ∧
        (phase = .invoiced ∨ phase = .invoicedReturned) := by
  have invoices := inPhase.invoices_eq
  rw [only] at invoices
  simp only [List.map_cons, List.map_nil, unpaid] at invoices
  have next : phase = .invoiced ∨ phase = .invoicedReturned := by
    cases phase with
    | invoiced => exact Or.inl rfl
    | invoicedReturned => exact Or.inr rfl
    | unheld | held | returned | paid | paidReturned =>
        simp [tracesOf] at invoices
  have before := inPhase.leftBehind
  have positive : 0 < amount := by
    rcases next with rfl | rfl
    · exact inPhase.positive (by decide) (by decide)
    · exact inPhase.positive (by decide) (by decide)
  refine ⟨⟨?_, fun _ _ => positive⟩, next⟩
  cases release with
  | nothing none =>
      rw [inPhase.exposure_eq] at none
      rcases next with rfl | rfl
      · exact absurd none (Int.ne_of_gt positive)
      · simp only [traces, tracesOf, CreditTraces.mk.injEq] at before
        simp [traces, posted, withPayment, tracesOf, before, markOf?, only]
  | released row payload' some isRelease ofAmount sameReason =>
      rw [inPhase.exposure_eq] at some ofAmount
      rcases next with rfl | rfl
      · simp only [traces, tracesOf, CreditTraces.mk.injEq] at before
        simp [traces, posted, withPayment, tracesOf, before, markOf?, only,
          isRelease, ofAmount, exposureOf, sameReason]
      · exact absurd some (by simp [exposureOf])

/-- Every move keeps the order in one of the phases. -/
theorem Consistent.move {credit' : OrderCredit} {call : BillingCall}
    (consistent : credit.Consistent amount) (move : credit.Move call credit')
    (ofAmount : ∀ request, call = .creditHold request →
      request.amount.amount = amount) : credit'.Consistent amount := by
  obtain ⟨phase, inPhase⟩ := consistent
  cases move with
  | holdRepeated | elsewhere | invoiceRepeated | paymentRepeated =>
      exact ⟨phase, inPhase⟩
  | refused request payload first => exact ⟨phase, inPhase.refused payload⟩
  | approved request payload row first isHold rowAmount =>
      rw [inPhase.hasHold_iff, not_not] at first
      subst first
      exact ⟨.held, inPhase.approved payload isHold
        (rowAmount.trans (ofAmount request rfl))⟩
  | released request rows facts release =>
      obtain ⟨phase', after, _⟩ := inPhase.released release
      exact ⟨phase', after⟩
  | issued request invoice payload row first held isConsume rowAmount isIssued =>
      exact ⟨.invoiced,
        (inPhase.issued payload held isConsume rowAmount isIssued).2⟩
  | paid request snapshot locked payment payload rows facts only unpaid release =>
      exact ⟨_, (inPhase.paid payment payload only unpaid release).1⟩

end OrderCredit

end OrderToCash.Billing
