import OrderToCash.Billing.CreditLine
import OrderToCash.Table.Upsert

/-!
# One order in Billing

The ledger rows, the invoices, the payments and the facts of one order, and the
moves a committed call of the order makes on them.  Calls of other orders leave
them alone.
-/

namespace OrderToCash.Billing

open OrderToCash.Contracts
open OrderToCash.Kernel
open OrderToCash.Table
open OrderToCash.Transition

/-- The part of the database that belongs to one order. -/
structure OrderCredit where
  items : List CreditItemRow
  invoices : List InvoiceRow
  payments : List PaymentRow
  facts : List Fact
deriving DecidableEq, Repr

namespace BillingDb

def itemsOfOrder (db : BillingDb) (order : OrderNumber) : List CreditItemRow :=
  db.creditItems.filter (·.orderReference = order)

def invoicesOf (db : BillingDb) (order : OrderNumber) : List InvoiceRow :=
  db.invoices.filter (·.orderReference = order)

/-- The payments of the order's invoices. -/
def paymentsOf (db : BillingDb) (order : OrderNumber) : List PaymentRow :=
  db.payments.filter fun payment =>
    (db.invoicesOf order).any (·.id = payment.invoiceId)

def orderCredit (db : BillingDb) (order : OrderNumber) : OrderCredit :=
  { items := db.itemsOfOrder order
    invoices := db.invoicesOf order
    payments := db.paymentsOf order
    facts := db.outbox.filter (·.orderReference = order) }

end BillingDb

/-- The order a call is about; a payment is about its invoice's. -/
def BillingCall.order? : BillingCall → Option OrderNumber
  | .creditHold request => some request.orderReference
  | .creditRelease request => some request.orderReference
  | .invoiceIssue request => some request.orderReference
  | .paymentLooked _ => none
  | .paymentRegister _ invoice => some invoice.orderReference

namespace OrderCredit

/-- The order with ledger rows and facts appended. -/
def posted (credit : OrderCredit) (rows : List CreditItemRow)
    (facts : List Fact) : OrderCredit :=
  { credit with items := credit.items ++ rows, facts := credit.facts ++ facts }

def HasHold (credit : OrderCredit) : Prop :=
  ∃ row ∈ credit.items, row.type = .hold

/-- What the order ties up. -/
def exposure (credit : OrderCredit) : Int := exposureOfRows credit.items

def activeHold (credit : OrderCredit) : Int := activeHoldOfRows credit.items

/-- The order with its invoices paid by one more payment. -/
def withPayment (credit : OrderCredit) (payment : PaymentRow) : OrderCredit :=
  { credit with
    invoices := credit.invoices.map fun row => { row with status := .paid }
    payments := credit.payments ++ [payment] }

/-- The release of everything the order ties up. -/
inductive Release (credit : OrderCredit) (reason : CreditReleaseReason) :
    List CreditItemRow → List Fact → Prop
  | nothing (none : credit.exposure = 0) : Release credit reason [] []
  | released (row : CreditItemRow) (payload : CreditReleasedPayload)
      (some : 0 < credit.exposure) (isRelease : row.type = .release)
      (amount : row.amount = credit.exposure)
      (sameReason : payload.reason = reason) :
      Release credit reason [row] [.creditReleased payload]

/-- What a committed call of the order does to it. -/
inductive Move (credit : OrderCredit) : BillingCall → OrderCredit → Prop
  | holdRepeated (request : CreditHoldRequest) (held : credit.HasHold) :
      Move credit (.creditHold request) credit
  | refused (request : CreditHoldRequest) (payload : CreditRejectedPayload)
      (first : ¬ credit.HasHold) :
      Move credit (.creditHold request)
        (credit.posted [] [.creditRejected payload])
  | approved (request : CreditHoldRequest) (payload : CreditApprovedPayload)
      (row : CreditItemRow) (first : ¬ credit.HasHold)
      (isHold : row.type = .hold) (amount : row.amount = request.amount.amount) :
      Move credit (.creditHold request)
        (credit.posted [row] [.creditApproved payload])
  | elsewhere (request : CreditReleaseRequest) :
      Move credit (.creditRelease request) credit
  | released (request : CreditReleaseRequest) (rows : List CreditItemRow)
      (facts : List Fact) (release : credit.Release .orderCancelled rows facts) :
      Move credit (.creditRelease request) (credit.posted rows facts)
  | invoiceRepeated (request : InvoiceIssueRequest)
      (existing : credit.invoices ≠ []) :
      Move credit (.invoiceIssue request) credit
  | issued (request : InvoiceIssueRequest) (invoice : InvoiceRow)
      (payload : InvoiceIssuedPayload) (row : CreditItemRow)
      (first : credit.invoices = []) (held : 0 < credit.activeHold)
      (isConsume : row.type = .consume) (amount : row.amount = credit.activeHold)
      (isIssued : invoice.status = .issued) (unpaid : credit.payments = []) :
      Move credit (.invoiceIssue request)
        ({ credit with invoices := [invoice] }.posted [row]
          [.invoiceIssued payload])
  | paymentRepeated (request : PaymentRegisterRequest) (snapshot : InvoiceRow)
      (paid : ∃ invoice ∈ credit.invoices, invoice.status = .paid) :
      Move credit (.paymentRegister request snapshot) credit
  | paid (request : PaymentRegisterRequest) (snapshot : InvoiceRow)
      (locked : InvoiceRow) (payment : PaymentRow)
      (payload : PaymentReceivedPayload) (rows : List CreditItemRow)
      (facts : List Fact) (only : credit.invoices = [locked])
      (unpaid : locked.status = .issued)
      (release : credit.Release .invoicePaid rows facts) :
      Move credit (.paymentRegister request snapshot)
        ((credit.withPayment payment).posted rows
          (.paymentReceived payload :: facts))

end OrderCredit

namespace BillingDb

/-! ## Rows and facts of one order -/

/-- Rows and facts of the order go to the order. -/
theorem orderCredit_posted (db : BillingDb) {order : OrderNumber}
    {rows : List CreditItemRow} {facts : List Fact} (count : Nat)
    (rowsOf : ∀ row ∈ rows, row.orderReference = order)
    (factsOf : ∀ fact ∈ facts, fact.orderReference = order) :
    ((db.generated count).posted rows facts).orderCredit order =
      (db.orderCredit order).posted rows facts := by
  have allRows : rows.filter (·.orderReference = order) = rows :=
    List.filter_eq_self.mpr fun row rowMem => decide_eq_true (rowsOf row rowMem)
  have allFacts : facts.filter (·.orderReference = order) = facts :=
    List.filter_eq_self.mpr fun fact factMem =>
      decide_eq_true (factsOf fact factMem)
  simp only [orderCredit, posted, generated, itemsOfOrder, invoicesOf, paymentsOf,
    OrderCredit.posted, List.filter_append, allRows, allFacts]

/-- Rows and facts of another order do not. -/
theorem orderCredit_posted_of_other (db : BillingDb) {order : OrderNumber}
    {rows : List CreditItemRow} {facts : List Fact} (count : Nat)
    (rowsOf : ∀ row ∈ rows, row.orderReference ≠ order)
    (factsOf : ∀ fact ∈ facts, fact.orderReference ≠ order) :
    ((db.generated count).posted rows facts).orderCredit order =
      db.orderCredit order := by
  have noRows : rows.filter (·.orderReference = order) = [] :=
    List.filter_eq_nil_iff.mpr fun row rowMem selected =>
      rowsOf row rowMem (of_decide_eq_true selected)
  have noFacts : facts.filter (·.orderReference = order) = [] :=
    List.filter_eq_nil_iff.mpr fun fact factMem selected =>
      factsOf fact factMem (of_decide_eq_true selected)
  simp only [orderCredit, posted, generated, itemsOfOrder, invoicesOf, paymentsOf,
    List.filter_append, noRows, noFacts, List.append_nil]

/-- A release is all of its order. -/
theorem ReleaseEffect.ofOrder {db : BillingDb} {order : OrderNumber}
    {line : CreditRow} {reason : CreditReleaseReason} {rows : List CreditItemRow}
    {facts : List Fact} (effect : db.ReleaseEffect order line reason rows facts) :
    (∀ row ∈ rows, row.orderReference = order) ∧
      ∀ fact ∈ facts, fact.orderReference = order := by
  cases effect with
  | nothing none => simp
  | released payload some payloadOf =>
      constructor
      · intro row rowMem
        rw [List.mem_singleton.mp rowMem]
        rfl
      · intro fact factMem
        rw [List.mem_singleton.mp factMem]
        exact payloadOf

/-- An invoice of another order leaves the order's invoices alone. -/
theorem orderCredit_afterIssue_of_other {db : BillingDb} {order : OrderNumber}
    {invoice : InvoiceRow} {line : CreditRow} {payload : InvoiceIssuedPayload}
    (differs : invoice.orderReference ≠ order)
    (payloadOf : payload.orderReference = invoice.orderReference) :
    (db.afterIssue invoice line payload).orderCredit order =
      db.orderCredit order := by
  have rowsOf : ∀ row ∈ [db.ledgerRow 1 line invoice.orderReference .consume
      (activeHoldOfRows (db.itemsOf line.id invoice.orderReference))],
      row.orderReference ≠ order := by
    intro row rowMem
    rw [List.mem_singleton.mp rowMem]
    exact differs
  have factsOf : ∀ fact ∈ [Fact.invoiceIssued payload],
      fact.orderReference ≠ order := by
    intro fact factMem
    rw [List.mem_singleton.mp factMem]
    exact fun same => differs (payloadOf.symm.trans same)
  have posted := orderCredit_posted_of_other db 2 rowsOf factsOf
  have invoices : (db.afterIssue invoice line payload).invoicesOf order =
      db.invoicesOf order := by
    simp [invoicesOf, afterIssue, differs]
  rw [← posted]
  simp only [orderCredit, paymentsOf, invoices]
  rfl

/-- Marking an invoice paid, on the invoices of an order. -/
theorem invoicesOf_afterPayment (db : BillingDb) (order : OrderNumber)
    (invoiceId : UniqueId) (payment : PaymentRow) (rows : List CreditItemRow)
    (facts : List Fact) :
    (db.afterPayment invoiceId payment rows facts).invoicesOf order =
      (db.invoicesOf order).map fun row =>
        if row.id = invoiceId then { row with status := .paid } else row := by
  simp only [invoicesOf, afterPayment, List.filter_map]
  congr 1
  refine List.filter_congr fun row _ => ?_
  simp only [Function.comp_apply]
  split
  · rfl
  · rfl

/-- A payment of another order's invoice leaves the order alone. -/
theorem orderCredit_afterPayment_of_other {db : BillingDb} (sound : db.Sound)
    {order : OrderNumber} {locked : InvoiceRow} {payment : PaymentRow}
    {rows : List CreditItemRow} {facts : List Fact}
    (lockedMem : locked ∈ db.invoices) (differs : locked.orderReference ≠ order)
    (ofInvoice : payment.invoiceId = locked.id)
    (rowsOf : ∀ row ∈ rows, row.orderReference ≠ order)
    (factsOf : ∀ fact ∈ facts, fact.orderReference ≠ order) :
    (db.afterPayment locked.id payment rows facts).orderCredit order =
      db.orderCredit order := by
  have notLocked : ∀ row ∈ db.invoicesOf order, row.id ≠ locked.id := by
    intro row rowMem same
    obtain ⟨stored, ofOrder⟩ := List.mem_filter.mp rowMem
    cases List.inj_on_of_nodup_map sound.invoiceIds stored lockedMem same
    exact differs (of_decide_eq_true ofOrder)
  have invoices : (db.afterPayment locked.id payment rows facts).invoicesOf order =
      db.invoicesOf order := by
    rw [invoicesOf_afterPayment]
    have unchanged : ∀ row ∈ db.invoicesOf order,
        (if row.id = locked.id then { row with status := .paid } else row) =
          row :=
      fun row rowMem => if_neg (notLocked row rowMem)
    rw [List.map_congr_left unchanged, List.map_id']
  have payments : (db.afterPayment locked.id payment rows facts).paymentsOf order =
      db.paymentsOf order := by
    have notOf : (db.invoicesOf order).any (·.id = payment.invoiceId) = false := by
      rw [List.any_eq_false]
      intro row rowMem same
      exact notLocked row rowMem ((of_decide_eq_true same).trans ofInvoice)
    rw [paymentsOf, invoices]
    simp only [afterPayment, paymentsOf, List.filter_append]
    rw [List.filter_cons_of_neg (by rw [notOf]; exact Bool.false_ne_true)]
    exact List.append_nil _
  have posted := orderCredit_posted_of_other db 2 rowsOf factsOf
  simp only [orderCredit, OrderCredit.mk.injEq] at posted ⊢
  exact ⟨posted.1, invoices, payments, posted.2.2.2⟩

end BillingDb

namespace BillingSystem

open BillingDb

/-- A committed call leaves other orders alone. -/
theorem orderCredit_of_other {db db' : BillingDb} {drawn : Bool}
    {call : BillingCall} {reply : BillingReply} {order : OrderNumber}
    (sound : db.Sound)
    (resolved : ∀ request snapshot, call = .paymentRegister request snapshot →
      ∀ locked, db.findById snapshot.id = some locked →
        locked.orderReference = snapshot.orderReference)
    (result : transaction db drawn call = some (.ok (db', reply)))
    (ofOther : call.order? ≠ some order) :
    db'.orderCredit order = db.orderCredit order := by
  cases call with
  | creditHold request =>
      have differs : request.orderReference ≠ order := fun same =>
        ofOther (congrArg some same)
      obtain ⟨line, found, effect⟩ := hold_effect (Option.some.inj result)
      cases effect with
      | repeated held => rfl
      | refused payload first payloadOf =>
          refine orderCredit_posted_of_other db 0 (by simp) fun fact factMem => ?_
          rw [List.mem_singleton.mp factMem]
          exact fun same => differs (payloadOf.symm.trans same)
      | approved payload first fits payloadOf =>
          refine orderCredit_posted_of_other db 1 (fun row rowMem => ?_)
            fun fact factMem => ?_
          · rw [List.mem_singleton.mp rowMem]
            exact differs
          · rw [List.mem_singleton.mp factMem]
            exact fun same => differs (payloadOf.symm.trans same)
  | creditRelease request =>
      have differs : request.orderReference ≠ order := fun same =>
        ofOther (congrArg some same)
      obtain ⟨line, rows, facts, count, found, effect, rfl⟩ :=
        releaseCredit_effect (Option.some.inj result)
      obtain ⟨rowsOf, factsOf⟩ := effect.ofOrder
      exact orderCredit_posted_of_other db count
        (fun row rowMem same => differs ((rowsOf row rowMem).symm.trans same))
        fun fact factMem same => differs ((factsOf fact factMem).symm.trans same)
  | invoiceIssue request =>
      have differs : request.orderReference ≠ order := fun same =>
        ofOther (congrArg some same)
      obtain ⟨line, found, effect⟩ := issueInvoice_effect (Option.some.inj result)
      cases effect with
      | repeated existing found => rfl
      | issued invoice payload first held identifier reference ofOrder ofLine
          isIssued payloadOf =>
          exact orderCredit_afterIssue_of_other
            (fun same => differs (ofOrder.symm.trans same))
            (payloadOf.trans ofOrder.symm)
  | paymentLooked request => cases result
  | paymentRegister request snapshot =>
      have differs : snapshot.orderReference ≠ order := fun same =>
        ofOther (congrArg some same)
      obtain ⟨line, foundLine, effect⟩ :=
        registerPayment_effect (Option.some.inj result)
      cases effect with
      | repeated locked found paid => rfl
      | paid locked payment payload rows facts found unpaid first reference
          ofInvoice ofOrder total release =>
          have sameOrder := resolved request snapshot rfl locked found
          obtain ⟨rowsOf, factsOf⟩ := release.ofOrder
          refine orderCredit_afterPayment_of_other sound
            (List.mem_of_find?_eq_some found)
            (fun same => differs (sameOrder.symm.trans same)) ofInvoice
            (fun row rowMem same => differs ((rowsOf row rowMem).symm.trans same))
            fun fact factMem same => ?_
          rcases List.mem_cons.mp factMem with rfl | released
          · exact differs (sameOrder.symm.trans (ofOrder.symm.trans same))
          · exact differs ((factsOf fact released).symm.trans same)

end BillingSystem

/-! ## Calls of the order -/

namespace BillingDb

/-- The order's ledger rows are all on the line of the codes. -/
def OnLine (db : BillingDb) (order : OrderNumber)
    (retailerCode companyCode : String) : Prop :=
  ∀ row ∈ db.itemsOfOrder order,
    ∃ line, db.findCredit retailerCode companyCode = some line ∧
      row.creditId = line.id

/-- The order's invoices name the codes. -/
def InvoicedTo (db : BillingDb) (order : OrderNumber)
    (retailerCode companyCode : String) : Prop :=
  ∀ invoice ∈ db.invoicesOf order,
    invoice.retailerCode = retailerCode ∧ invoice.companyCode = companyCode

/-- On the line of its codes an order has all of its ledger rows. -/
theorem itemsOf_eq {db : BillingDb} {order : OrderNumber}
    {retailerCode companyCode : String} {line : CreditRow}
    (onLine : db.OnLine order retailerCode companyCode)
    (found : db.findCredit retailerCode companyCode = some line) :
    db.itemsOf line.id order = db.itemsOfOrder order := by
  unfold itemsOf itemsOfOrder
  refine List.filter_congr fun row rowMem => ?_
  by_cases ofOrder : row.orderReference = order
  · obtain ⟨other, otherFound, same⟩ :=
      onLine row (List.mem_filter.mpr ⟨rowMem, decide_eq_true ofOrder⟩)
    cases Option.some.inj (found.symm.trans otherFound)
    simp [ofOrder, same]
  · simp [ofOrder]

/-- On any line an order has all of its ledger rows or none. -/
theorem itemsOf_eq_or_nil {db : BillingDb} {order : OrderNumber}
    {retailerCode companyCode : String}
    (onLine : db.OnLine order retailerCode companyCode) (creditId : UniqueId) :
    db.itemsOf creditId order = db.itemsOfOrder order ∨
      db.itemsOf creditId order = [] := by
  by_cases none : db.itemsOf creditId order = []
  · exact Or.inr none
  · obtain ⟨row, rowMem⟩ := List.exists_mem_of_ne_nil _ none
    obtain ⟨ofLine, ofOrder⟩ := orderReference_of_mem_itemsOf rowMem
    have stored : row ∈ db.itemsOfOrder order :=
      List.mem_filter.mpr ⟨(List.mem_filter.mp rowMem).1, decide_eq_true ofOrder⟩
    obtain ⟨line, found, same⟩ := onLine row stored
    rw [← ofLine, same]
    exact Or.inl (itemsOf_eq onLine found)

theorem invoicesOf_eq_nil {db : BillingDb} {order : OrderNumber}
    (none : db.findByOrderReference order = none) : db.invoicesOf order = [] := by
  rw [findByOrderReference, List.find?_eq_none] at none
  exact List.filter_eq_nil_iff.mpr none

/-- An order has one invoice at most. -/
theorem invoicesOf_eq_singleton {db : BillingDb} (sound : db.Sound)
    {order : OrderNumber} {invoice : InvoiceRow} (stored : invoice ∈ db.invoices)
    (ofOrder : invoice.orderReference = order) :
    db.invoicesOf order = [invoice] := by
  subst ofOrder
  exact filter_key_eq_singleton InvoiceRow.orderReference sound.invoiceOrders
    stored

/-- An invoice of the order is its first. -/
theorem orderCredit_afterIssue {db : BillingDb} (sound : db.Sound)
    {order : OrderNumber} {invoice : InvoiceRow} {line : CreditRow}
    {payload : InvoiceIssuedPayload} (first : db.invoicesOf order = [])
    (invoiceOf : invoice.orderReference = order)
    (payloadOf : payload.orderReference = order)
    (identifier : invoice.id = db.newId 0) :
    (db.afterIssue invoice line payload).orderCredit order =
      { db.orderCredit order with invoices := [invoice] }.posted
        [db.ledgerRow 1 line invoice.orderReference .consume
          (activeHoldOfRows (db.itemsOf line.id invoice.orderReference))]
        [.invoiceIssued payload] := by
  have factOf : ∀ fact ∈ [Fact.invoiceIssued payload],
      fact.orderReference = order :=
    List.forall_mem_singleton.mpr payloadOf
  have rowOf : ∀ row ∈ [db.ledgerRow 1 line invoice.orderReference .consume
      (activeHoldOfRows (db.itemsOf line.id invoice.orderReference))],
      row.orderReference = order :=
    List.forall_mem_singleton.mpr invoiceOf
  have posted := orderCredit_posted db 2 rowOf factOf
  have invoices : (db.afterIssue invoice line payload).invoicesOf order =
      [invoice] := by
    have before : db.invoices.filter (·.orderReference = order) = [] := first
    simp [invoicesOf, afterIssue, invoiceOf, before]
  have notPaid : ∀ payment ∈ db.payments, invoice.id ≠ payment.invoiceId := by
    intro payment paymentMem same
    obtain ⟨other, otherMem, otherId⟩ :=
      List.mem_map.mp (sound.ofInvoice payment paymentMem)
    have generated := sound.invoiceGenerated other otherMem
    rw [otherId, ← same, identifier] at generated
    exact absurd generated (Nat.lt_irrefl db.nextId)
  have payments : (db.afterIssue invoice line payload).paymentsOf order =
      db.paymentsOf order := by
    simp only [paymentsOf, invoices, first]
    refine List.filter_congr fun payment paymentMem => ?_
    simp [notPaid payment paymentMem]
  simp only [orderCredit, OrderCredit.posted, OrderCredit.mk.injEq] at posted ⊢
  exact ⟨posted.1, invoices, payments, posted.2.2.2⟩

/-- A payment of the order's one invoice. -/
theorem orderCredit_afterPayment {db : BillingDb} {order : OrderNumber}
    {locked : InvoiceRow} {payment : PaymentRow} {payload : PaymentReceivedPayload}
    {rows : List CreditItemRow} {facts : List Fact}
    (only : db.invoicesOf order = [locked])
    (ofInvoice : payment.invoiceId = locked.id)
    (payloadOf : payload.orderReference = order)
    (released : (∀ row ∈ rows, row.orderReference = order) ∧
      ∀ fact ∈ facts, fact.orderReference = order) :
    (db.afterPayment locked.id payment rows
        (.paymentReceived payload :: facts)).orderCredit order =
      ((db.orderCredit order).withPayment payment).posted rows
        (.paymentReceived payload :: facts) := by
  have factsOf : ∀ fact ∈ Fact.paymentReceived payload :: facts,
      fact.orderReference = order :=
    List.forall_mem_cons.mpr ⟨payloadOf, released.2⟩
  have posted := orderCredit_posted db 2 released.1 factsOf
  have invoices : (db.afterPayment locked.id payment rows
      (.paymentReceived payload :: facts)).invoicesOf order =
        (db.invoicesOf order).map fun row => { row with status := .paid } := by
    rw [invoicesOf_afterPayment, only]
    simp
  have payments : (db.afterPayment locked.id payment rows
      (.paymentReceived payload :: facts)).paymentsOf order =
        db.paymentsOf order ++ [payment] := by
    rw [paymentsOf, invoices, only]
    simp [afterPayment, paymentsOf, only, ofInvoice]
  simp only [orderCredit, OrderCredit.posted, OrderCredit.withPayment,
    OrderCredit.mk.injEq] at posted ⊢
  exact ⟨posted.1, invoices, payments, posted.2.2.2⟩

/-- A release on a line is the release of all that its order has there. -/
theorem ReleaseEffect.release {db : BillingDb} {order : OrderNumber}
    {line : CreditRow} {reason : CreditReleaseReason} {rows : List CreditItemRow}
    {facts : List Fact} (effect : db.ReleaseEffect order line reason rows facts)
    (all : db.itemsOf line.id order = db.itemsOfOrder order) :
    (db.orderCredit order).Release reason rows facts := by
  have exposed : exposureOfRows (db.itemsOf line.id order) =
      (db.orderCredit order).exposure :=
    congrArg exposureOfRows all
  cases effect with
  | nothing none => exact .nothing (exposed ▸ none)
  | released payload some payloadOf sameReason releasedAmount available =>
      exact .released _ payload (exposed ▸ some) rfl exposed sameReason

/-- On another line there is nothing to release. -/
theorem ReleaseEffect.eq_nil {db : BillingDb} {order : OrderNumber}
    {line : CreditRow} {reason : CreditReleaseReason} {rows : List CreditItemRow}
    {facts : List Fact} (effect : db.ReleaseEffect order line reason rows facts)
    (none : db.itemsOf line.id order = []) : rows = [] ∧ facts = [] := by
  cases effect with
  | nothing => exact ⟨rfl, rfl⟩
  | released payload some =>
      rw [none] at some
      exact absurd some (by decide)

end BillingDb

/-- What a call carries of the order agrees with the database: a hold is the
order's one request, a resolved invoice is stored. -/
def BillingCall.Ready (db : BillingDb) (hold : CreditHoldRequest) :
    BillingCall → Prop
  | .creditHold request =>
      request.orderReference = hold.orderReference → request = hold
  | .paymentRegister _ snapshot =>
      ∃ stored ∈ db.invoices, stored.id = snapshot.id ∧
        stored.orderReference = snapshot.orderReference ∧
          stored.retailerCode = snapshot.retailerCode ∧
            stored.companyCode = snapshot.companyCode
  | _ => True

namespace BillingSystem

open BillingDb

/-- The invoice a payment locks is the one it resolved. -/
theorem stored_of_ready {db : BillingDb} (sound : db.Sound)
    {hold : CreditHoldRequest} {request : PaymentRegisterRequest}
    {snapshot locked : InvoiceRow}
    (ready : (BillingCall.paymentRegister request snapshot).Ready db hold)
    (found : db.findById snapshot.id = some locked) :
    locked ∈ db.invoices ∧ locked.orderReference = snapshot.orderReference ∧
      locked.retailerCode = snapshot.retailerCode ∧
        locked.companyCode = snapshot.companyCode := by
  obtain ⟨stored, storedMem, sameId, sameFields⟩ := ready
  unfold findById at found
  have lockedMem := List.mem_of_find?_eq_some found
  have named := List.find?_some found
  have lockedId : locked.id = snapshot.id := of_decide_eq_true named
  cases List.inj_on_of_nodup_map sound.invoiceIds storedMem lockedMem
    (sameId.trans lockedId.symm)
  exact ⟨lockedMem, sameFields⟩

theorem move_of_hold {db db' : BillingDb} {drawn : Bool}
    {request : CreditHoldRequest} {reply : BillingReply}
    (onLine : db.OnLine request.orderReference request.retailerCode request.companyCode)
    (result : db.hold request drawn = .ok (db', reply)) :
    (db.orderCredit request.orderReference).Move (.creditHold request)
      (db'.orderCredit request.orderReference) := by
  rcases hold_effect result with ⟨line, found, effect⟩
  have all := itemsOf_eq onLine found
  have sameHold : db.HasHold line request.orderReference ↔
      (db.orderCredit request.orderReference).HasHold := by
    rw [HasHold, all]
    rfl
  cases effect with
  | repeated held => exact .holdRepeated request (sameHold.mp held)
  | refused payload first payloadOf =>
      have factOf : ∀ fact ∈ [Fact.creditRejected payload],
          fact.orderReference = request.orderReference :=
        List.forall_mem_singleton.mpr payloadOf
      have after : (db.posted [] [.creditRejected payload]).orderCredit
          request.orderReference =
            (db.orderCredit request.orderReference).posted []
              [.creditRejected payload] :=
        orderCredit_posted db 0 (List.forall_mem_nil _) factOf
      rw [after]
      exact .refused request payload fun held => first (sameHold.mpr held)
  | approved payload first fits payloadOf heldAmount available =>
      have factOf : ∀ fact ∈ [Fact.creditApproved payload],
          fact.orderReference = request.orderReference :=
        List.forall_mem_singleton.mpr payloadOf
      have rowOf : ∀ row ∈ [db.ledgerRow 0 line request.orderReference .hold
          request.amount.amount], row.orderReference = request.orderReference :=
        List.forall_mem_singleton.mpr rfl
      rw [orderCredit_posted db 1 rowOf factOf]
      exact .approved request payload _
        (fun held => first (sameHold.mpr held)) rfl rfl

/-- A release may name a line the order is not on. -/
theorem move_of_release {db db' : BillingDb} {request : CreditReleaseRequest}
    {reply : BillingReply} {retailerCode companyCode : String}
    (onLine : db.OnLine request.orderReference retailerCode companyCode)
    (result : db.releaseCredit request = .ok (db', reply)) :
    (db.orderCredit request.orderReference).Move (.creditRelease request)
      (db'.orderCredit request.orderReference) := by
  rcases releaseCredit_effect result with
    ⟨line, rows, facts, count, found, effect, rfl⟩
  rw [orderCredit_posted db count effect.ofOrder.1 effect.ofOrder.2]
  rcases itemsOf_eq_or_nil onLine line.id with all | none
  · exact .released request rows facts (effect.release all)
  · rcases effect.eq_nil none with ⟨rfl, rfl⟩
    have same : (db.orderCredit request.orderReference).posted [] [] =
        db.orderCredit request.orderReference := by
      simp [OrderCredit.posted]
    rw [same]
    exact .elsewhere request

theorem move_of_invoice {db db' : BillingDb} {request : InvoiceIssueRequest}
    {reply : BillingReply} {retailerCode companyCode : String} (sound : db.Sound)
    (onLine : db.OnLine request.orderReference retailerCode companyCode)
    (result : db.issueInvoice request = .ok (db', reply)) :
    (db.orderCredit request.orderReference).Move (.invoiceIssue request)
      (db'.orderCredit request.orderReference) := by
  rcases issueInvoice_effect result with ⟨line, found, effect⟩
  cases effect with
  | repeated existing existingFound =>
      apply OrderCredit.Move.invoiceRepeated request
      unfold findByOrderReference at existingFound
      have stored := List.mem_of_find?_eq_some existingFound
      have named := List.find?_some existingFound
      exact List.ne_nil_of_mem (List.mem_filter.mpr ⟨stored, named⟩)
  | issued invoice payload first held identifier reference invoiceOf ofLine
      isIssued payloadOf =>
      have all : db.itemsOf line.id request.orderReference =
          db.itemsOfOrder request.orderReference := by
        rcases itemsOf_eq_or_nil onLine line.id with all | none
        · exact all
        · rw [none] at held
          exact absurd held (by decide)
      have noInvoice := invoicesOf_eq_nil first
      have unpaid : db.paymentsOf request.orderReference = [] := by
        simp [paymentsOf, noInvoice]
      have active : activeHoldOfRows (db.itemsOf line.id request.orderReference) =
          (db.orderCredit request.orderReference).activeHold :=
        congrArg activeHoldOfRows all
      rw [orderCredit_afterIssue sound noInvoice invoiceOf payloadOf identifier]
      exact .issued request invoice payload _ noInvoice (active ▸ held) rfl
        (invoiceOf ▸ active) isIssued unpaid

/-- The invoice a payment has read is still there, and is the order's only one. -/
theorem move_of_payment {db db' : BillingDb} {request : PaymentRegisterRequest}
    {snapshot : InvoiceRow} {reply : BillingReply} {hold : CreditHoldRequest}
    (sound : db.Sound)
    (onLine : db.OnLine hold.orderReference hold.retailerCode hold.companyCode)
    (invoicedTo :
      db.InvoicedTo hold.orderReference hold.retailerCode hold.companyCode)
    (ready : (BillingCall.paymentRegister request snapshot).Ready db hold)
    (ofOrder : snapshot.orderReference = hold.orderReference)
    (result : db.registerPayment request snapshot = .ok (db', reply)) :
    (db.orderCredit hold.orderReference).Move (.paymentRegister request snapshot)
      (db'.orderCredit hold.orderReference) := by
  rcases registerPayment_effect result with ⟨line, foundLine, effect⟩
  cases effect with
  | repeated locked found paid =>
      rcases stored_of_ready sound ready found with ⟨lockedMem, sameOrder, _⟩
      apply OrderCredit.Move.paymentRepeated request snapshot
      apply Exists.intro locked
      exact ⟨List.mem_filter.mpr
        ⟨lockedMem, decide_eq_true (sameOrder.trans ofOrder)⟩, paid⟩
  | paid locked payment payload rows facts found unpaid first reference
      ofInvoice payloadOf total release =>
      rcases stored_of_ready sound ready found with
        ⟨lockedMem, sameOrder, sameRetailer, sameCompany⟩
      have lockedOf := sameOrder.trans ofOrder
      have only := invoicesOf_eq_singleton sound lockedMem lockedOf
      have named := invoicedTo locked (only ▸ List.mem_singleton_self locked)
      rw [← sameRetailer, ← sameCompany, named.1, named.2] at foundLine
      have all := itemsOf_eq onLine foundLine
      rw [ofOrder] at release
      rw [orderCredit_afterPayment only ofInvoice (payloadOf.trans lockedOf)
        release.ofOrder]
      exact .paid request snapshot locked payment payload rows facts only
        unpaid (release.release all)

/-- A committed call of the order makes one of the moves. -/
theorem move_of_order {db db' : BillingDb} {drawn : Bool} {call : BillingCall}
    {reply : BillingReply} {hold : CreditHoldRequest} (sound : db.Sound)
    (onLine : db.OnLine hold.orderReference hold.retailerCode hold.companyCode)
    (invoicedTo :
      db.InvoicedTo hold.orderReference hold.retailerCode hold.companyCode)
    (ready : call.Ready db hold)
    (result : transaction db drawn call = some (.ok (db', reply)))
    (ofOrder : call.order? = some hold.orderReference) :
    (db.orderCredit hold.orderReference).Move call
      (db'.orderCredit hold.orderReference) := by
  cases call with
  | creditHold request =>
      have sameRequest := ready (Option.some.inj ofOrder)
      subst sameRequest
      exact move_of_hold onLine (Option.some.inj result)
  | creditRelease request =>
      have named : request.orderReference = hold.orderReference :=
        Option.some.inj ofOrder
      rw [← named] at onLine ⊢
      exact move_of_release onLine (Option.some.inj result)
  | invoiceIssue request =>
      have named : request.orderReference = hold.orderReference :=
        Option.some.inj ofOrder
      rw [← named] at onLine ⊢
      exact move_of_invoice sound onLine (Option.some.inj result)
  | paymentLooked request => cases ofOrder
  | paymentRegister request snapshot =>
      exact move_of_payment sound onLine invoicedTo ready (Option.some.inj ofOrder)
        (Option.some.inj result)

end BillingSystem

end OrderToCash.Billing
