import OrderToCash.Billing.Effects

/-!
# The credit lines

What holds of the tables over every run of the service: the keys of the
invoices, and that no line is ever committed beyond its limit.  A hold fits the
credit that is available, a release only gives some back, and a consumption
moves nothing.
-/

namespace OrderToCash.Billing

open OrderToCash.Contracts
open OrderToCash.Kernel
open OrderToCash.Transition

namespace BillingDb

/-- The tables are keyed and every line is within its limit. -/
structure Sound (db : BillingDb) : Prop where
  lineIds : (db.credits.map CreditRow.id).Nodup
  invoiceIds : (db.invoices.map InvoiceRow.id).Nodup
  invoiceOrders : (db.invoices.map InvoiceRow.orderReference).Nodup
  invoiceGenerated : ∀ invoice ∈ db.invoices, invoice.id.value < db.nextId
  ofInvoice : ∀ payment ∈ db.payments,
    payment.invoiceId ∈ db.invoices.map InvoiceRow.id
  limits : ∀ line ∈ db.credits, 0 ≤ line.creditLimit
  within : ∀ line ∈ db.credits, db.committedExposure line.id ≤ line.creditLimit

/-! ## The committed exposure -/

theorem committedExposure_posted (db : BillingDb) (rows : List CreditItemRow)
    (facts : List Fact) (creditId : UniqueId) :
    (db.posted rows facts).committedExposure creditId =
      db.committedExposure creditId +
        exposureOfRows (rows.filter (·.creditId = creditId)) := by
  simp [committedExposure, posted, exposureOfRows]

/-- One more row moves the exposure of its own line only. -/
theorem committedExposure_ledgerRow {db : BillingDb} {index : Nat}
    {line : CreditRow} {order : OrderNumber} {type : CreditEntryType}
    {amount : Int} (creditId : UniqueId) :
    exposureOfRows
        ([db.ledgerRow index line order type amount].filter
          (·.creditId = creditId)) =
      if line.id = creditId then
        exposureOfRow (db.ledgerRow index line order type amount)
      else 0 := by
  by_cases same : line.id = creditId
  · simp [ledgerRow, exposureOfRows, same]
  · simp [ledgerRow, exposureOfRows, same]

/-- Ledger rows that leave every line within its limit keep the tables sound. -/
theorem Sound.posted {db : BillingDb} (sound : db.Sound)
    (rows : List CreditItemRow) (facts : List Fact) (count : Nat)
    (fits : ∀ line ∈ db.credits,
      db.committedExposure line.id +
        exposureOfRows (rows.filter (·.creditId = line.id)) ≤ line.creditLimit) :
    ((db.generated count).posted rows facts).Sound where
  lineIds := sound.lineIds
  invoiceIds := sound.invoiceIds
  invoiceOrders := sound.invoiceOrders
  invoiceGenerated := by
    intro invoice invoiceMem
    exact Nat.lt_add_right count (sound.invoiceGenerated invoice invoiceMem)
  ofInvoice := sound.ofInvoice
  limits := sound.limits
  within := by
    intro line lineMem
    rw [committedExposure_posted]
    exact fits line lineMem

/-- Rows that tie up nothing more keep the lines within their limits. -/
theorem Sound.fits_of_nonpos {db : BillingDb} (sound : db.Sound)
    {rows : List CreditItemRow}
    (nonpos : ∀ creditId,
      exposureOfRows (rows.filter (·.creditId = creditId)) ≤ 0) :
    ∀ line ∈ db.credits,
      db.committedExposure line.id +
        exposureOfRows (rows.filter (·.creditId = line.id)) ≤
          line.creditLimit := by
  intro line lineMem
  have within := sound.within line lineMem
  have less := nonpos line.id
  omega

/-- A release only gives credit back. -/
theorem ReleaseEffect.nonpos {db : BillingDb} {order : OrderNumber}
    {line : CreditRow} {reason : CreditReleaseReason} {rows : List CreditItemRow}
    {facts : List Fact} (effect : db.ReleaseEffect order line reason rows facts)
    (creditId : UniqueId) :
    exposureOfRows (rows.filter (·.creditId = creditId)) ≤ 0 := by
  cases effect with
  | nothing none => exact Int.le_refl 0
  | released payload some =>
      rw [committedExposure_ledgerRow]
      split
      · simp only [exposureOfRow, ledgerRow]
        omega
      · exact Int.le_refl 0

/-- Only one line can have an identifier. -/
theorem fits_ledgerRow {db : BillingDb} (sound : db.Sound)
    {line : CreditRow} (lineMem : line ∈ db.credits) {order : OrderNumber} {amount : Int}
    (fits : amount ≤ line.creditLimit - db.committedExposure line.id) :
    ∀ other ∈ db.credits,
      db.committedExposure other.id +
        exposureOfRows
          ([db.ledgerRow 0 line order .hold amount].filter
            (·.creditId = other.id)) ≤ other.creditLimit := by
  intro other otherMem
  rw [committedExposure_ledgerRow]
  split
  · rename_i same
    cases List.inj_on_of_nodup_map sound.lineIds lineMem otherMem same
    simp only [exposureOfRow, ledgerRow]
    omega
  · have within := sound.within other otherMem
    omega

/-! ## The transactions -/

theorem Sound.hold {db db' : BillingDb} (sound : db.Sound)
    {request : CreditHoldRequest} {line : CreditRow} (lineMem : line ∈ db.credits)
    (effect : db.HoldEffect request line db') : db'.Sound := by
  cases effect with
  | repeated held => exact sound
  | refused payload first ofOrder =>
      exact sound.posted [] [.creditRejected payload] 0
        (sound.fits_of_nonpos fun _ => Int.le_refl 0)
  | approved payload first fits ofOrder heldAmount available =>
      exact sound.posted _ _ 1 (fits_ledgerRow sound lineMem fits)

/-- An invoice with a new identifier of an order that has none. -/
theorem Sound.afterIssue {db : BillingDb} (sound : db.Sound) {invoice : InvoiceRow}
    (line : CreditRow) (payload : InvoiceIssuedPayload)
    (first : db.findByOrderReference invoice.orderReference = none)
    (identifier : invoice.id = db.newId 0) :
    (db.afterIssue invoice line payload).Sound := by
  have posted := sound.posted
    [db.ledgerRow 1 line invoice.orderReference .consume
      (activeHoldOfRows (db.itemsOf line.id invoice.orderReference))]
    [.invoiceIssued payload] 2
    (sound.fits_of_nonpos fun creditId => by
      rw [committedExposure_ledgerRow]
      split <;> exact Int.le_refl 0)
  have freshId : invoice.id ∉ db.invoices.map InvoiceRow.id := by
    intro listed
    obtain ⟨other, otherMem, same⟩ := List.mem_map.mp listed
    have generated := sound.invoiceGenerated other otherMem
    rw [same, identifier] at generated
    exact absurd generated (Nat.lt_irrefl db.nextId)
  have freshOrder :
      invoice.orderReference ∉ db.invoices.map InvoiceRow.orderReference := by
    intro listed
    obtain ⟨other, otherMem, same⟩ := List.mem_map.mp listed
    rw [findByOrderReference, List.find?_eq_none] at first
    exact first other otherMem (decide_eq_true same)
  exact
    { lineIds := posted.lineIds
      invoiceIds := by
        simp only [BillingDb.afterIssue, List.map_append, List.map_singleton]
        simpa using List.Nodup.concat freshId sound.invoiceIds
      invoiceOrders := by
        simp only [BillingDb.afterIssue, List.map_append, List.map_singleton]
        simpa using List.Nodup.concat freshOrder sound.invoiceOrders
      invoiceGenerated := by
        intro other otherMem
        rcases List.mem_append.mp otherMem with stored | new
        · exact posted.invoiceGenerated other stored
        · rw [List.mem_singleton.mp new, identifier]
          exact Nat.lt_add_of_pos_right (by decide)
      ofInvoice := by
        intro payment paymentMem
        have stored := sound.ofInvoice payment paymentMem
        simp only [BillingDb.afterIssue, List.map_append]
        exact List.mem_append_left _ stored
      limits := posted.limits
      within := posted.within }

/-- Marking an invoice paid keeps its keys. -/
theorem map_paid_keys (invoices : List InvoiceRow) (invoiceId : UniqueId) :
    ((invoices.map fun row =>
        if row.id = invoiceId then { row with status := .paid } else row).map
          InvoiceRow.id) = invoices.map InvoiceRow.id ∧
      ((invoices.map fun row =>
        if row.id = invoiceId then { row with status := .paid } else row).map
          InvoiceRow.orderReference) =
        invoices.map InvoiceRow.orderReference := by
  constructor
  · rw [List.map_map]
    refine List.map_congr_left fun row _ => ?_
    simp only [Function.comp_apply]
    split <;> rfl
  · rw [List.map_map]
    refine List.map_congr_left fun row _ => ?_
    simp only [Function.comp_apply]
    split <;> rfl

theorem Sound.afterPayment {db : BillingDb} (sound : db.Sound)
    {locked : InvoiceRow} {payment : PaymentRow} {order : OrderNumber}
    {line : CreditRow} {rows : List CreditItemRow} {facts released : List Fact}
    (lockedMem : locked ∈ db.invoices) (ofInvoice : payment.invoiceId = locked.id)
    (release : db.ReleaseEffect order line .invoicePaid rows released) :
    (db.afterPayment locked.id payment rows facts).Sound := by
  have posted := sound.posted rows facts 2
    (sound.fits_of_nonpos release.nonpos)
  have keys := map_paid_keys db.invoices locked.id
  exact
    { lineIds := posted.lineIds
      invoiceIds := by
        rw [BillingDb.afterPayment, keys.1]
        exact sound.invoiceIds
      invoiceOrders := by
        rw [BillingDb.afterPayment, keys.2]
        exact sound.invoiceOrders
      invoiceGenerated := by
        intro other otherMem
        obtain ⟨before, beforeMem, rfl⟩ := List.mem_map.mp otherMem
        have generated := posted.invoiceGenerated before beforeMem
        split
        · exact generated
        · exact generated
      ofInvoice := by
        intro other otherMem
        rw [BillingDb.afterPayment, keys.1]
        rcases List.mem_append.mp otherMem with stored | new
        · exact sound.ofInvoice other stored
        · rw [List.mem_singleton.mp new, ofInvoice]
          exact List.mem_map_of_mem lockedMem
      limits := posted.limits
      within := posted.within }

end BillingDb

namespace BillingSystem

open BillingDb

theorem sound_initial (catalogue : CreditCatalogue) :
    (initial catalogue).db.Sound where
  lineIds := catalogue.ids
  invoiceIds := List.nodup_nil
  invoiceOrders := List.nodup_nil
  invoiceGenerated := by
    intro invoice invoiceMem
    cases invoiceMem
  ofInvoice := by
    intro payment paymentMem
    cases paymentMem
  limits := catalogue.limits
  within := catalogue.limits

theorem sound_transaction {db db' : BillingDb} {drawn : Bool} {call : BillingCall}
    {reply : BillingReply} (sound : db.Sound)
    (result : transaction db drawn call = some (.ok (db', reply))) :
    db'.Sound := by
  cases call with
  | creditHold request =>
      obtain ⟨line, found, effect⟩ := hold_effect (Option.some.inj result)
      exact sound.hold (findCredit_eq_some found).1 effect
  | creditRelease request =>
      obtain ⟨line, rows, facts, count, found, effect, rfl⟩ :=
        releaseCredit_effect (Option.some.inj result)
      exact sound.posted rows facts count (sound.fits_of_nonpos effect.nonpos)
  | invoiceIssue request =>
      obtain ⟨line, found, effect⟩ := issueInvoice_effect (Option.some.inj result)
      cases effect with
      | repeated existing found => exact sound
      | issued invoice payload first held identifier reference ofOrder =>
          exact sound.afterIssue line payload (ofOrder ▸ first) identifier
  | paymentLooked request => cases result
  | paymentRegister request snapshot =>
      obtain ⟨line, foundLine, effect⟩ :=
        registerPayment_effect (Option.some.inj result)
      cases effect with
      | repeated locked found paid => exact sound
      | paid locked payment payload rows facts found unpaid first reference
          ofInvoice ofOrder total release =>
          exact sound.afterPayment (List.mem_of_find?_eq_some found) ofInvoice
            release

/-- Every line stays within its limit through every action. -/
theorem sound_step {system system' : BillingSystem} {action : BillingAction}
    (sound : system.db.Sound) (stepped : step system action = some system') :
    system'.db.Sound := by
  cases step_change stepped with
  | committed index drawn call db reply found result =>
      exact sound_transaction sound result
  | received | alreadyInvoiced | alreadyRecorded | unknownInvoice | resolved
  | refused | aborted => exact sound

end BillingSystem

end OrderToCash.Billing
