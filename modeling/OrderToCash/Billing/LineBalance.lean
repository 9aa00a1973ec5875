import OrderToCash.Billing.Verdict
import OrderToCash.Table.Grouping

/-!
# The balance of a credit line

No request loads the whole ledger of a line: the aggregate is given one number
for all orders and the entries of the order it works for, and moves the number
itself.  Here the three are tied together: what the aggregate counts in memory
is what the stored ledger sums up to, every order's exposure is within zero and
the limit, and every commit reports the credit it leaves available.
-/

namespace OrderToCash.Billing

open OrderToCash.Checked
open OrderToCash.Contracts
open OrderToCash.Kernel
open OrderToCash.Table
open OrderToCash.Transition

/-! ## The sum of the exposures -/

theorem sumOf_perm {first second : List CreditLedgerEntry}
    (type : CreditEntryType) (perm : first.Perm second) :
    sumOf type first = sumOf type second := by
  unfold sumOf
  exact ((perm.filter _).map _).sum_eq

theorem sumOf_flatMap (type : CreditEntryType) (orders : List OrderNumber)
    (entriesOf : OrderNumber → List CreditLedgerEntry) :
    sumOf type (orders.flatMap entriesOf) =
      (orders.map fun order => sumOf type (entriesOf order)).sum := by
  induction orders with
  | nil => rfl
  | cons first rest inductionHypothesis =>
      simp only [List.flatMap_cons, sumOf_append, inductionHypothesis,
        List.map_cons, List.sum_cons]

/-- Every entry is counted under its own order. -/
theorem sumOf_eq_sum_orders (type : CreditEntryType)
    (entries : List CreditLedgerEntry) :
    (((entries.map CreditLedgerEntry.orderReference).eraseDups).map fun order =>
      sumOf type (entries.filter (·.orderReference = order))).sum =
        sumOf type entries := by
  have all : entries.filter (fun entry => entry.orderReference ∈
      (entries.map CreditLedgerEntry.orderReference).eraseDups) = entries := by
    rw [List.filter_eq_self]
    intro entry entryMem
    apply decide_eq_true
    rw [List.mem_eraseDups]
    exact List.mem_map_of_mem entryMem
  have perm := flatMap_filter_perm CreditLedgerEntry.orderReference entries
    (nodup_eraseDups (entries.map CreditLedgerEntry.orderReference))
  rw [all] at perm
  rw [← sumOf_flatMap]
  exact sumOf_perm type perm

/-- The exposures of a ledger's orders sum up to its holds less its releases. -/
theorem committedExposure_summariseLedger (entries : List CreditLedgerEntry) :
    (summariseLedger entries).committedExposure =
      sumOf .hold entries - sumOf .release entries := by
  rw [← sumOf_eq_sum_orders .hold entries, ← sumOf_eq_sum_orders .release entries]
  simp only [summariseLedger, List.map_map]
  generalize (entries.map CreditLedgerEntry.orderReference).eraseDups = orders
  induction orders with
  | nil => rfl
  | cons order rest inductionHypothesis =>
      simp only [List.map_cons, List.sum_cons, inductionHypothesis,
        Function.comp_apply, orderExposure]
      omega

namespace BillingDb

/-- The whole ledger of a line. -/
def ledgerOf (db : BillingDb) (line : CreditRow) : List CreditLedgerEntry :=
  (db.creditItems.filter (·.creditId = line.id)).map
    (·.toEntry line.currencyCode)

/-- The database had the order never held anything. -/
def withoutOrder (db : BillingDb) (order : OrderNumber) : BillingDb :=
  { db with creditItems := db.creditItems.filter (·.orderReference ≠ order) }

/-- The number a line is loaded with is the sum of its orders' exposures. -/
theorem committedExposure_ledgerOf (db : BillingDb) (line : CreditRow) :
    (summariseLedger (db.ledgerOf line)).committedExposure =
      db.committedExposure line.id := by
  rw [committedExposure_summariseLedger, ledgerOf, sumOf_toEntry, sumOf_toEntry,
    ← exposureOfRows_eq]
  rfl

/-- An order's exposure on a line is that of its rows there. -/
theorem orderExposure_ledgerOf (db : BillingDb) (line : CreditRow)
    (order : OrderNumber) :
    (orderExposure (db.ledgerOf line) order).exposure =
      exposureOfRows (db.itemsOf line.id order) := by
  have ofOrder : ∀ row ∈ db.itemsOf line.id order, row.orderReference = order :=
    fun row rowMem => (orderReference_of_mem_itemsOf rowMem).2
  rw [← (orderExposure_toEntry ofOrder line.currencyCode).1,
    ← orderExposure_filter, ledgerOf, List.filter_map, List.filter_filter]
  congr 3
  refine List.filter_congr fun row _ => ?_
  simp [CreditItemRow.toEntry, and_comm]

/-- What a line has committed is one order's exposure on top of what it would
have committed without the order. -/
theorem committedExposure_withoutOrder (db : BillingDb) (creditId : UniqueId)
    (order : OrderNumber) :
    db.committedExposure creditId =
      (db.withoutOrder order).committedExposure creditId +
        exposureOfRows (db.itemsOf creditId order) := by
  unfold committedExposure withoutOrder itemsOf
  induction db.creditItems with
  | nil => rfl
  | cons row rest inductionHypothesis =>
      by_cases ofLine : row.creditId = creditId
      · by_cases ofOrder : row.orderReference = order
        · simp [ofLine, ofOrder, exposureOfRows] at inductionHypothesis ⊢
          omega
        · simp [ofLine, ofOrder, exposureOfRows] at inductionHypothesis ⊢
          omega
      · by_cases ofOrder : row.orderReference = order
        · simpa [ofLine, ofOrder] using inductionHypothesis
        · simpa [ofLine, ofOrder] using inductionHypothesis

end BillingDb

/-! ## What a request does with the line it loaded -/

/-- What a fact says was held or released, and what that left available. -/
structure CreditReport where
  orderReference : OrderNumber
  retailerCode : String
  companyCode : String
  currency : CurrencyCode
  amount : Int
  availableCreditAfter : Int
deriving DecidableEq, Repr

def creditReport? : Fact → Option CreditReport
  | .creditApproved payload =>
      some ⟨payload.orderReference, payload.retailerCode, payload.companyCode,
        payload.currency, payload.heldAmount, payload.availableCreditAfter⟩
  | .creditReleased payload =>
      some ⟨payload.orderReference, payload.retailerCode, payload.companyCode,
        payload.currency, payload.releasedAmount, payload.availableCreditAfter⟩
  | _ => none

/-- The report of an order's amount on a line with so much committed. -/
def reportOf (line : CreditRow) (order : OrderNumber) (amount committed : Int) :
    CreditReport :=
  ⟨order, line.retailerCode, line.companyCode, line.currencyCode, amount,
    line.creditLimit - committed⟩

namespace BuyerCredit

/-- One operation, or none, on a line loaded for an order. -/
inductive Operated (credit : BuyerCredit) (order : OrderNumber) :
    BuyerCredit → Prop
  | untouched : Operated credit order credit
  | approved (request : HoldRequest) (newId : UniqueId) (credit' : BuyerCredit)
      (ofOrder : request.orderReference = order)
      (result : credit.approveHold request newId = .ok credit') :
      Operated credit order credit'
  | refused (request : HoldRequest) (reason : CreditRejectionReason)
      (credit' : BuyerCredit) (ofOrder : request.orderReference = order)
      (result : credit.refuseHold request reason = .ok credit') :
      Operated credit order credit'
  | consumed (newId : UniqueId) (credit' : BuyerCredit)
      (result : credit.consumeHold order newId = .ok credit') :
      Operated credit order credit'
  | released (reason : CreditReleaseReason) (newId : UniqueId)
      (credit' : BuyerCredit) (entry : CreditLedgerEntry)
      (result : credit.releaseHold order reason newId =
        .ok (some (credit', entry))) :
      Operated credit order credit'

end BuyerCredit

namespace BillingDb

/-- The rows one operation appends to the ledger of the line. -/
inductive LedgerEffect (db : BillingDb) (line : CreditRow) (order : OrderNumber) :
    List CreditItemRow → List Fact → Prop
  | nothing (facts : List Fact) (silent : ∀ fact ∈ facts,
      creditReport? fact = none) : LedgerEffect db line order [] facts
  | held (row : CreditItemRow) (payload : CreditApprovedPayload)
      (first : ¬ db.HasHold line order) (isHold : row.type = .hold)
      (ofLine : row.creditId = line.id) (ofOrder : row.orderReference = order)
      (report : creditReport? (.creditApproved payload) =
        some (reportOf line order row.amount
          (db.committedExposure line.id + row.amount))) :
      LedgerEffect db line order [row] [.creditApproved payload]
  | consumed (row : CreditItemRow) (isConsume : row.type = .consume)
      (ofLine : row.creditId = line.id) (ofOrder : row.orderReference = order) :
      LedgerEffect db line order [row] []
  | released (row : CreditItemRow) (payload : CreditReleasedPayload)
      (isRelease : row.type = .release) (ofLine : row.creditId = line.id)
      (ofOrder : row.orderReference = order)
      (amount : row.amount = exposureOfRows (db.itemsOf line.id order))
      (report : creditReport? (.creditReleased payload) =
        some (reportOf line order row.amount
          (db.committedExposure line.id - row.amount))) :
      LedgerEffect db line order [row] [.creditReleased payload]

/-- An operation appends one entry at most, and counts it in memory. -/
theorem ledgerEffect_of_operated {db : BillingDb} {line : CreditRow}
    {order : OrderNumber} {credit : BuyerCredit}
    (operated : (db.toBuyerCreditSnapshot line order).Operated order credit) :
    credit.id = line.id ∧
      db.LedgerEffect line order
        (credit.appended.map (toCreditItemRow line.id)) credit.domainEvents ∧
      credit.committedExposure = db.committedExposure line.id +
        exposureOfRows (credit.appended.map (toCreditItemRow line.id)) := by
  cases operated with
  | untouched =>
      refine ⟨rfl, .nothing _ ?_, ?_⟩
      · exact List.forall_mem_nil _
      · exact (Int.add_zero _).symm
  | approved request newId credit ofOrder result =>
      subst ofOrder
      unfold BuyerCredit.approveHold at result
      split at result
      · rename_i evaluates
        cases result
        have first : ¬ db.HasHold line request.orderReference := by
          rw [hasHold_iff_alreadyHeld evaluates]
          simp
        refine ⟨rfl, .held _ _ first rfl rfl rfl rfl, ?_⟩
        simp [BuyerCredit.addDomainEvent, BuyerCredit.append, toBuyerCreditSnapshot,
          toCreditItemRow, exposureOfRows, exposureOfRow]
      · cases result
  | refused request reason credit ofOrder result =>
      simp only [BuyerCredit.refuseHold, ite_error_eq_ok_iff, Except.ok.injEq]
        at result
      obtain ⟨_, rfl⟩ := result
      refine ⟨rfl, .nothing _ ?_, ?_⟩
      · exact List.forall_mem_singleton.mpr rfl
      · exact (Int.add_zero _).symm
  | consumed newId credit result =>
      simp only [BuyerCredit.consumeHold, ite_error_eq_ok_iff, Except.ok.injEq]
        at result
      obtain ⟨_, rfl⟩ := result
      refine ⟨rfl, .consumed _ rfl rfl rfl, ?_⟩
      simp [BuyerCredit.append, toBuyerCreditSnapshot, toCreditItemRow,
        exposureOfRows, exposureOfRow]
  | released reason newId credit entry result =>
      simp only [BuyerCredit.releaseHold, BuyerCredit.outstanding_snapshot,
        ite_error_eq_ok_iff] at result
      obtain ⟨_, result⟩ := result
      split at result
      · cases result
      · cases result
        refine ⟨rfl, .released _ _ rfl rfl rfl rfl ?_, ?_⟩
        · exact congrArg (fun committed => some (reportOf line order _ committed))
            Int.sub_eq_add_neg.symm
        · simp [BuyerCredit.addDomainEvent, BuyerCredit.append,
            toBuyerCreditSnapshot, toCreditItemRow, exposureOfRows, exposureOfRow]

/-- A transaction loads a line for an order, works on it and saves it; the facts
of an invoice are recorded before those of the line. -/
structure Posted (db db' : BillingDb) (line : CreditRow) (order : OrderNumber)
    (credit : BuyerCredit) : Prop where
  stored : line ∈ db.credits
  loaded : db.lockForOrder line.retailerCode line.companyCode order =
    .ok (db.toBuyerCreditSnapshot line order)
  operated : (db.toBuyerCreditSnapshot line order).Operated order credit
  sameLines : db'.credits = db.credits
  saved : db'.creditItems = (db.saveCredit credit).creditItems
  recorded : ∃ facts, (∀ fact ∈ facts, creditReport? fact = none) ∧
    db'.outbox = db.outbox ++ facts ++ credit.domainEvents

/-- The line a transaction locks is the one it loads. -/
theorem lockForOrder_loaded {db : BillingDb} {retailerCode companyCode : String}
    {order : OrderNumber} {credit : BuyerCredit}
    (locked : db.lockForOrder retailerCode companyCode order = .ok credit) :
    ∃ line ∈ db.credits, credit = db.toBuyerCreditSnapshot line order ∧
      db.lockForOrder line.retailerCode line.companyCode order =
        .ok (db.toBuyerCreditSnapshot line order) := by
  obtain ⟨line, found, rfl⟩ := lockForOrder_eq_ok locked
  obtain ⟨lineMem, rfl, rfl⟩ := findCredit_eq_some found
  exact ⟨line, lineMem, rfl, locked⟩

/-- A transaction that leaves the line as it loaded it. -/
theorem posted_untouched {db : BillingDb} {line : CreditRow} {order : OrderNumber}
    (stored : line ∈ db.credits)
    (loaded : db.lockForOrder line.retailerCode line.companyCode order =
      .ok (db.toBuyerCreditSnapshot line order)) :
    db.Posted db line order (db.toBuyerCreditSnapshot line order) where
  stored := stored
  loaded := loaded
  operated := .untouched
  sameLines := rfl
  saved := (List.append_nil _).symm
  recorded := ⟨[], List.forall_mem_nil _, by simp [toBuyerCreditSnapshot]⟩

/-- A transaction that saves nothing but the line. -/
theorem posted_saveCredit {db : BillingDb} {line : CreditRow} {order : OrderNumber}
    {credit : BuyerCredit} (stored : line ∈ db.credits)
    (loaded : db.lockForOrder line.retailerCode line.companyCode order =
      .ok (db.toBuyerCreditSnapshot line order))
    (operated : (db.toBuyerCreditSnapshot line order).Operated order credit)
    (count : Nat) :
    db.Posted ((db.generated count).saveCredit credit) line order credit where
  stored := stored
  loaded := loaded
  operated := operated
  sameLines := rfl
  saved := rfl
  recorded := ⟨[], List.forall_mem_nil _, by simp [saveCredit, generated]⟩

theorem hold_posted {db db' : BillingDb} {request : CreditHoldRequest}
    {drawn : Bool} {reply : BillingReply}
    (result : db.hold request drawn = .ok (db', reply)) :
    ∃ line credit, db.Posted db' line request.orderReference credit := by
  unfold hold at result
  obtain ⟨amount, isMoney, result⟩ := bind_eq_ok_iff.mp result
  obtain ⟨credit, locked, result⟩ := bind_eq_ok_iff.mp result
  obtain ⟨line, lineMem, rfl, loaded⟩ := lockForOrder_loaded locked
  refine ⟨line, ?_⟩
  have refusal : ∀ reason,
      db.refuse (db.toBuyerCreditSnapshot line request.orderReference)
          ⟨request.orderReference, amount⟩ reason = .ok (db', reply) →
        ∃ credit, db.Posted db' line request.orderReference credit := by
    intro reason refused
    unfold refuse at refused
    obtain ⟨credit, accepted, saved⟩ := bind_eq_ok_iff.mp refused
    cases saved
    exact ⟨credit, posted_saveCredit lineMem loaded
      (.refused _ reason credit rfl accepted) 0⟩
  cases evaluates : (db.toBuyerCreditSnapshot line
      request.orderReference).evaluateHold ⟨request.orderReference, amount⟩ with
  | alreadyHeld heldAmount =>
      simp only [evaluates] at result
      cases result
      exact ⟨_, posted_untouched lineMem loaded⟩
  | currencyMismatch expected =>
      simp only [evaluates] at result
      cases result
  | overLimit available =>
      simp only [evaluates] at result
      exact refusal _ result
  | fits =>
      simp only [evaluates] at result
      split at result
      · exact refusal _ result
      · obtain ⟨credit, approved, saved⟩ := bind_eq_ok_iff.mp result
        cases saved
        exact ⟨credit, posted_saveCredit lineMem loaded
          (.approved _ _ credit rfl approved) 1⟩

theorem releaseCredit_posted {db db' : BillingDb} {request : CreditReleaseRequest}
    {reply : BillingReply} (result : db.releaseCredit request = .ok (db', reply)) :
    ∃ line credit, db.Posted db' line request.orderReference credit := by
  unfold releaseCredit at result
  obtain ⟨credit, locked, result⟩ := bind_eq_ok_iff.mp result
  obtain ⟨line, lineMem, rfl, loaded⟩ := lockForOrder_loaded locked
  obtain ⟨released, accepted, result⟩ := bind_eq_ok_iff.mp result
  cases released with
  | none =>
      cases result
      exact ⟨line, _, posted_untouched lineMem loaded⟩
  | some released =>
      obtain ⟨credit, entry⟩ := released
      cases result
      exact ⟨line, credit, posted_saveCredit lineMem loaded
        (.released _ _ credit entry accepted) 1⟩

theorem issueInvoice_posted {db db' : BillingDb} {request : InvoiceIssueRequest}
    {reply : BillingReply} (result : db.issueInvoice request = .ok (db', reply)) :
    ∃ line credit, db.Posted db' line request.orderReference credit := by
  unfold issueInvoice at result
  obtain ⟨credit, locked, result⟩ := bind_eq_ok_iff.mp result
  obtain ⟨line, lineMem, rfl, loaded⟩ := lockForOrder_loaded locked
  split at result
  · cases result
    exact ⟨line, _, posted_untouched lineMem loaded⟩
  · simp only [ite_error_eq_ok_iff] at result
    obtain ⟨_, _, result⟩ := result
    obtain ⟨lines, _, result⟩ := bind_eq_ok_iff.mp result
    obtain ⟨discount, _, result⟩ := bind_eq_ok_iff.mp result
    obtain ⟨invoice, issued, result⟩ := bind_eq_ok_iff.mp result
    obtain ⟨credit, consumed, result⟩ := bind_eq_ok_iff.mp result
    obtain ⟨saved, savedInvoice, result⟩ := bind_eq_ok_iff.mp result
    obtain ⟨payload, _, events, _⟩ := issue_eq_ok issued
    simp only [saveInvoice, ite_error_eq_ok_iff, Except.ok.injEq] at savedInvoice
    obtain ⟨_, rfl⟩ := savedInvoice
    cases result
    exact ⟨line, credit,
      { stored := lineMem
        loaded := loaded
        operated := .consumed _ credit consumed
        sameLines := rfl
        saved := rfl
        recorded := by
          refine ⟨[.invoiceIssued payload], List.forall_mem_singleton.mpr rfl, ?_⟩
          simp [saveCredit, generated, events] }⟩

theorem registerPayment_posted {db db' : BillingDb}
    {request : PaymentRegisterRequest} {snapshot : InvoiceRow}
    {reply : BillingReply}
    (result : db.registerPayment request snapshot = .ok (db', reply)) :
    ∃ line credit, db.Posted db' line snapshot.orderReference credit := by
  unfold registerPayment at result
  obtain ⟨credit, locked, result⟩ := bind_eq_ok_iff.mp result
  obtain ⟨line, lineMem, rfl, loaded⟩ := lockForOrder_loaded locked
  split at result
  · cases result
  · obtain ⟨invoice, rebuilt, result⟩ := bind_eq_ok_iff.mp result
    cases reconstitute_eq_ok rebuilt
    split at result
    · cases result
      exact ⟨line, _, posted_untouched lineMem loaded⟩
    · obtain ⟨amount, _, result⟩ := bind_eq_ok_iff.mp result
      obtain ⟨invoice', marked, result⟩ := bind_eq_ok_iff.mp result
      obtain ⟨payload, _, _, _, rfl⟩ := markPaid_eq_ok marked
      obtain ⟨released, accepted, result⟩ := bind_eq_ok_iff.mp result
      obtain ⟨marked, savedInvoice, result⟩ := bind_eq_ok_iff.mp result
      simp only [markPaid, ite_error_eq_ok_iff, Except.ok.injEq] at savedInvoice
      obtain ⟨_, rfl⟩ := savedInvoice
      cases result
      have operated :
          (db.toBuyerCreditSnapshot line snapshot.orderReference).Operated
            snapshot.orderReference ((released.map Prod.fst).getD
              (db.toBuyerCreditSnapshot line snapshot.orderReference)) := by
        cases released with
        | none => exact .untouched
        | some released =>
            obtain ⟨credit, entry⟩ := released
            exact .released _ _ credit entry accepted
      exact ⟨line, _,
        { stored := lineMem
          loaded := loaded
          operated := operated
          sameLines := rfl
          saved := rfl
          recorded := ⟨[.paymentReceived payload],
            List.forall_mem_singleton.mpr rfl, rfl⟩ }⟩

namespace Posted

variable {db db' : BillingDb} {line : CreditRow} {order : OrderNumber}
  {credit : BuyerCredit}

/-- The rows a transaction adds to the stored ledger. -/
theorem creditItems_eq (posted : db.Posted db' line order credit) :
    db'.creditItems =
      db.creditItems ++ credit.appended.map (toCreditItemRow line.id) := by
  rw [posted.saved, saveCredit, (ledgerEffect_of_operated posted.operated).1]

/-- What the aggregate counts in memory is what the stored ledger sums up to. -/
theorem inMemory (posted : db.Posted db' line order credit) :
    credit.committedExposure = db'.committedExposure line.id := by
  obtain ⟨_, effect, counted⟩ := ledgerEffect_of_operated posted.operated
  have ofLine : (credit.appended.map (toCreditItemRow line.id)).filter
      (·.creditId = line.id) = credit.appended.map (toCreditItemRow line.id) := by
    rw [List.filter_eq_self]
    intro row rowMem
    obtain ⟨entry, _, rfl⟩ := List.mem_map.mp rowMem
    exact decide_eq_true rfl
  rw [counted]
  unfold committedExposure
  rw [posted.creditItems_eq, List.filter_append, ofLine, List.map_append,
    List.sum_append]
  rfl

/-- The rows of an order on a line after a transaction. -/
theorem itemsOf_eq (posted : db.Posted db' line order credit)
    (creditId : UniqueId) (other : OrderNumber) :
    db'.itemsOf creditId other = db.itemsOf creditId other ++
      (credit.appended.map (toCreditItemRow line.id)).filter fun row =>
        row.creditId = creditId ∧ row.orderReference = other := by
  rw [itemsOf, posted.creditItems_eq, List.filter_append]
  rfl

end Posted

/-- One row of an order on a line, as others see it. -/
theorem filter_row {row : CreditItemRow} {line : CreditRow} {order : OrderNumber}
    (ofLine : row.creditId = line.id) (ofOrder : row.orderReference = order)
    (creditId : UniqueId) (other : OrderNumber) :
    [row].filter (fun row => row.creditId = creditId ∧ row.orderReference = other) =
      if line.id = creditId ∧ order = other then [row] else [] := by
  subst ofOrder
  rw [← ofLine]
  by_cases same : row.creditId = creditId ∧ row.orderReference = other
  · simp [same]
  · simp [same]

/-! ## What every ledger keeps to -/

/-- Holds are not negative, no order owes a line, and none has two holds on
one. -/
structure Balanced (db : BillingDb) : Prop where
  holds : ∀ row ∈ db.creditItems, row.type = .hold → 0 ≤ row.amount
  nonneg : ∀ creditId order, 0 ≤ exposureOfRows (db.itemsOf creditId order)
  oneHold : ∀ creditId order,
    (db.itemsOf creditId order).countP (·.type = .hold) ≤ 1

/-- A transaction keeps the ledger balanced unless it holds a negative amount. -/
theorem Balanced.posted {db db' : BillingDb} {line : CreditRow} {order : OrderNumber}
    {credit : BuyerCredit} (balanced : db.Balanced)
    (posted : db.Posted db' line order credit)
    (holds : ∀ row ∈ db'.creditItems, row.type = .hold → 0 ≤ row.amount) :
    db'.Balanced := by
  have effect := (ledgerEffect_of_operated posted.operated).2.1
  have items := posted.itemsOf_eq
  have ledger := posted.creditItems_eq
  generalize credit.domainEvents = facts at effect
  generalize credit.appended.map (toCreditItemRow line.id) = rows at effect items ledger
  have newest : ∀ row ∈ rows, row ∈ db'.creditItems := by
    intro row rowMem
    rw [ledger]
    exact List.mem_append_right _ rowMem
  refine ⟨holds, fun creditId other => ?_, fun creditId other => ?_⟩
  · have before := balanced.nonneg creditId other
    rw [items, exposureOfRows_append]
    cases effect with
    | nothing => simpa [exposureOfRows] using before
    | held row payload first isHold ofLine ofOrder =>
        have amount := holds row (newest row (List.mem_singleton_self row)) isHold
        rw [filter_row ofLine ofOrder]
        split
        · simp only [exposureOfRows, List.map_singleton, List.sum_singleton,
            exposureOfRow, isHold] at before ⊢
          omega
        · simpa [exposureOfRows] using before
    | consumed row isConsume ofLine ofOrder =>
        rw [filter_row ofLine ofOrder]
        split
        · simpa [exposureOfRows, exposureOfRow, isConsume] using before
        · simpa [exposureOfRows] using before
    | released row payload isRelease ofLine ofOrder amount =>
        rw [filter_row ofLine ofOrder]
        split
        · rename_i same
          obtain ⟨rfl, rfl⟩ := same
          simp [exposureOfRows, exposureOfRow, isRelease, amount]
        · simpa [exposureOfRows] using before
  · have before := balanced.oneHold creditId other
    rw [items, List.countP_append]
    cases effect with
    | nothing => simpa using before
    | held row payload first isHold ofLine ofOrder =>
        rw [filter_row ofLine ofOrder]
        split
        · rename_i same
          obtain ⟨rfl, rfl⟩ := same
          have none : (db.itemsOf line.id order).countP (·.type = .hold) = 0 := by
            rw [List.countP_eq_zero]
            intro held heldMem isHeld
            exact first ⟨held, heldMem, of_decide_eq_true isHeld⟩
          simp [none, isHold]
        · simpa using before
    | consumed row isConsume ofLine ofOrder =>
        rw [filter_row ofLine ofOrder]
        split
        · simpa [isConsume] using before
        · simpa using before
    | released row payload isRelease ofLine ofOrder =>
        rw [filter_row ofLine ofOrder]
        split
        · simpa [isRelease] using before
        · simpa using before

/-! ## What a commit on a line reports -/

/-- What holds of a commit on a line: the aggregate counts what is stored, the
stored entries stay, every report is of the credit left available, and what an
order gives back is all it tied up. -/
structure CommitBalanced (db db' : BillingDb) (line : CreditRow)
    (order : OrderNumber) (credit : BuyerCredit) : Prop where
  posted : db.Posted db' line order credit
  counted : credit.committedExposure = db'.committedExposure line.id
  kept : db.creditItems <+: db'.creditItems
  reported : ∃ facts, db'.outbox = db.outbox ++ facts ∧
    ∀ fact ∈ facts, ∀ report ∈ creditReport? fact,
      report = reportOf line order report.amount (db'.committedExposure line.id)
  givenBack : ∀ payload, .creditReleased payload ∈ credit.domainEvents →
    payload.orderReference = order ∧
      exposureOfRows (db'.itemsOf line.id order) = 0 ∧
        db'.committedExposure line.id =
          (db'.withoutOrder order).committedExposure line.id

theorem Posted.balanced {db db' : BillingDb} {line : CreditRow}
    {order : OrderNumber} {credit : BuyerCredit}
    (posted : db.Posted db' line order credit) :
    db.CommitBalanced db' line order credit := by
  have counted := posted.inMemory
  obtain ⟨_, effect, inMemory⟩ := ledgerEffect_of_operated posted.operated
  have items := posted.itemsOf_eq line.id order
  obtain ⟨invoiced, silent, outbox⟩ := posted.recorded
  refine
    { posted := posted
      counted := counted
      kept := ⟨_, posted.creditItems_eq.symm⟩
      reported := ⟨invoiced ++ credit.domainEvents, ?_, ?_⟩
      givenBack := ?_ }
  · rw [outbox, List.append_assoc]
  · intro fact factMem report isReport
    rw [← counted, inMemory]
    rcases List.mem_append.mp factMem with ofInvoice | ofLine
    · rw [silent fact ofInvoice] at isReport
      cases isReport
    · generalize credit.domainEvents = facts at effect ofLine
      generalize credit.appended.map (toCreditItemRow line.id) = rows at effect ⊢
      cases effect with
      | nothing facts silent =>
          rw [silent fact ofLine] at isReport
          cases isReport
      | held row payload first isHold _ _ isReportOf =>
          rw [List.mem_singleton.mp ofLine, isReportOf] at isReport
          cases isReport
          simp [reportOf, exposureOfRows, exposureOfRow, isHold]
      | consumed => cases ofLine
      | released row payload isRelease _ _ amount isReportOf =>
          rw [List.mem_singleton.mp ofLine, isReportOf] at isReport
          cases isReport
          simp [reportOf, exposureOfRows, exposureOfRow, isRelease,
            Int.sub_eq_add_neg]
  · intro payload released
    have nothingLeft : payload.orderReference = order ∧
        exposureOfRows (db'.itemsOf line.id order) = 0 := by
      rw [items, exposureOfRows_append]
      generalize credit.domainEvents = facts at effect released
      generalize credit.appended.map (toCreditItemRow line.id) = rows at effect ⊢
      cases effect with
      | nothing facts silent => exact absurd (silent _ released) (by simp [creditReport?])
      | held => exact absurd (List.mem_singleton.mp released) (by simp)
      | consumed => cases released
      | released row released' isRelease ofLine ofOrder amount report =>
          cases List.mem_singleton.mp released
          have payloadOf := congrArg CreditReport.orderReference
            (Option.some.inj report)
          refine ⟨payloadOf, ?_⟩
          rw [filter_row ofLine ofOrder, if_pos ⟨rfl, rfl⟩]
          simp [exposureOfRows, exposureOfRow, isRelease, amount]
    have split := db'.committedExposure_withoutOrder line.id order
    refine ⟨nothingLeft.1, nothingLeft.2, ?_⟩
    rw [split, nothingLeft.2, Int.add_zero]

end BillingDb

/-! ## Every committed state -/

/-- A call that holds a negative amount is none of these. -/
def BillingCall.NonnegativeHold : BillingCall → Prop
  | .creditHold request => 0 ≤ request.amount.amount
  | _ => True

namespace BillingSystem

open BillingDb

/-- Holds are received with amounts that are not negative. -/
def NonnegativeHolds : Guard BillingSystem BillingAction :=
  fun _ action => ∀ request ∈ receivedHold? action, 0 ≤ request.amount.amount

instance (system : BillingSystem) (action : BillingAction) :
    Decidable (NonnegativeHolds system action) :=
  inferInstanceAs (Decidable (∀ request ∈ receivedHold? action, _))

theorem posted_transaction {db db' : BillingDb} {drawn : Bool}
    {call : BillingCall} {reply : BillingReply}
    (result : transaction db drawn call = some (.ok (db', reply))) :
    ∃ line order credit, db.Posted db' line order credit := by
  cases call with
  | creditHold request =>
      obtain ⟨line, credit, posted⟩ := hold_posted (Option.some.inj result)
      exact ⟨line, _, credit, posted⟩
  | creditRelease request =>
      obtain ⟨line, credit, posted⟩ :=
        releaseCredit_posted (Option.some.inj result)
      exact ⟨line, _, credit, posted⟩
  | invoiceIssue request =>
      obtain ⟨line, credit, posted⟩ := issueInvoice_posted (Option.some.inj result)
      exact ⟨line, _, credit, posted⟩
  | paymentLooked request => cases result
  | paymentRegister request snapshot =>
      obtain ⟨line, credit, posted⟩ :=
        registerPayment_posted (Option.some.inj result)
      exact ⟨line, _, credit, posted⟩

/-- The release of an exposure appends releases of some amount. -/
theorem releaseEffect_rows {db : BillingDb} {order : OrderNumber}
    {line : CreditRow} {reason : CreditReleaseReason} {rows : List CreditItemRow}
    {facts : List Fact} (effect : db.ReleaseEffect order line reason rows facts) :
    ∀ row ∈ rows, row.type = .release ∧ 0 < row.amount := by
  cases effect with
  | nothing => exact List.forall_mem_nil _
  | released payload some =>
      exact List.forall_mem_singleton.mpr ⟨rfl, some⟩

/-- The ledger rows a transaction appends: a hold is of its request's amount,
and a release is of some. -/
theorem newRows_transaction {db db' : BillingDb} {drawn : Bool}
    {call : BillingCall} {reply : BillingReply}
    (result : transaction db drawn call = some (.ok (db', reply))) :
    ∃ rows, db'.creditItems = db.creditItems ++ rows ∧
      ∀ row ∈ rows,
        (row.type = .hold → ∃ request, call = .creditHold request ∧
          row.amount = request.amount.amount) ∧
        (row.type = .release → 0 < row.amount) := by
  have ofRelease : ∀ row : CreditItemRow, row.type = .release ∧ 0 < row.amount →
      (row.type = .hold → ∃ request, call = .creditHold request ∧
        row.amount = request.amount.amount) ∧
      (row.type = .release → 0 < row.amount) := by
    rintro row ⟨isRelease, some⟩
    constructor
    · intro isHold
      rw [isRelease] at isHold
      cases isHold
    · exact fun _ => some
  cases call with
  | creditHold request =>
      obtain ⟨line, _, effect⟩ := hold_effect (Option.some.inj result)
      cases effect with
      | repeated => exact ⟨[], (List.append_nil _).symm, List.forall_mem_nil _⟩
      | refused => exact ⟨[], rfl, List.forall_mem_nil _⟩
      | approved =>
          refine ⟨_, rfl, List.forall_mem_singleton.mpr ⟨?_, ?_⟩⟩
          · exact fun _ => ⟨request, rfl, rfl⟩
          · intro absurdity
            cases absurdity
  | creditRelease request =>
      obtain ⟨line, rows, facts, count, _, effect, rfl⟩ :=
        releaseCredit_effect (Option.some.inj result)
      exact ⟨rows, rfl, fun row rowMem =>
        ofRelease row (releaseEffect_rows effect row rowMem)⟩
  | invoiceIssue request =>
      obtain ⟨line, _, effect⟩ := issueInvoice_effect (Option.some.inj result)
      cases effect with
      | repeated => exact ⟨[], (List.append_nil _).symm, List.forall_mem_nil _⟩
      | issued =>
          refine ⟨_, rfl, List.forall_mem_singleton.mpr ⟨?_, ?_⟩⟩
          · intro absurdity
            cases absurdity
          · intro absurdity
            cases absurdity
  | paymentLooked request => cases result
  | paymentRegister request snapshot =>
      obtain ⟨line, _, effect⟩ := registerPayment_effect (Option.some.inj result)
      cases effect with
      | repeated => exact ⟨[], (List.append_nil _).symm, List.forall_mem_nil _⟩
      | paid locked payment payload rows facts _ _ _ _ _ _ _ release =>
          exact ⟨rows, rfl, fun row rowMem =>
            ofRelease row (releaseEffect_rows release row rowMem)⟩

/-- A transaction holds no negative amount. -/
theorem holds_transaction {db db' : BillingDb} {drawn : Bool} {call : BillingCall}
    {reply : BillingReply} (nonneg : call.NonnegativeHold)
    (result : transaction db drawn call = some (.ok (db', reply)))
    (holds : ∀ row ∈ db.creditItems, row.type = .hold → 0 ≤ row.amount) :
    ∀ row ∈ db'.creditItems, row.type = .hold → 0 ≤ row.amount := by
  obtain ⟨rows, ledger, newRows⟩ := newRows_transaction result
  intro row rowMem isHold
  rw [ledger] at rowMem
  rcases List.mem_append.mp rowMem with old | new
  · exact holds row old isHold
  · obtain ⟨request, rfl, ofAmount⟩ := (newRows row new).1 isHold
    rw [ofAmount]
    exact nonneg

/-- What every action keeps: sound tables, a balanced ledger, and no call under
way that holds a negative amount. -/
structure LinesKept (system : BillingSystem) : Prop where
  sound : system.db.Sound
  balanced : system.db.Balanced
  calls : ∀ call ∈ system.calls, call.NonnegativeHold

theorem linesKept_initial (catalogue : CreditCatalogue) :
    (initial catalogue).LinesKept where
  sound := sound_initial catalogue
  balanced :=
    { holds := List.forall_mem_nil _
      nonneg := fun _ _ => Int.le_refl 0
      oneHold := fun _ _ => Nat.zero_le 1 }
  calls := List.forall_mem_nil _

theorem linesKept_step {system system' : BillingSystem} {action : BillingAction}
    (kept : system.LinesKept) (nonneg : NonnegativeHolds system action)
    (stepped : step system action = some system') : system'.LinesKept := by
  have sound := sound_step kept.sound stepped
  cases step_change stepped with
  | received request call serves unresolved =>
      refine ⟨sound, kept.balanced, fun other otherMem => ?_⟩
      rcases List.mem_append.mp otherMem with old | new
      · exact kept.calls other old
      · rw [List.mem_singleton.mp new]
        cases call with
        | creditHold hold =>
            subst serves
            exact nonneg hold rfl
        | creditRelease | invoiceIssue | paymentLooked | paymentRegister =>
            trivial
  | alreadyInvoiced | alreadyRecorded =>
      exact ⟨sound, kept.balanced, kept.calls⟩
  | unknownInvoice | refused | aborted =>
      exact ⟨sound, kept.balanced, fun other otherMem =>
        kept.calls other (mem_of_mem_finished otherMem)⟩
  | resolved index request invoice looked found =>
      refine ⟨sound, kept.balanced, fun other otherMem => ?_⟩
      rcases List.mem_append.mp otherMem with old | new
      · exact kept.calls other (mem_of_mem_finished old)
      · rw [List.mem_singleton.mp new]
        trivial
  | committed index drawn call db reply found result =>
      obtain ⟨line, order, credit, posted⟩ := posted_transaction result
      have holds := holds_transaction
        (kept.calls call (List.mem_of_getElem? found)) result kept.balanced.holds
      exact ⟨sound, kept.balanced.posted posted holds, fun other otherMem =>
        kept.calls other (mem_of_mem_finished otherMem)⟩

/-- What one action does to the credit lines: nothing, or one commit. -/
theorem lines_step {system system' : BillingSystem} {action : BillingAction}
    (stepped : step system action = some system') :
    system'.db = system.db ∨ ∃ line order credit,
      system.db.CommitBalanced system'.db line order credit := by
  cases step_change stepped with
  | committed index drawn call db reply found result =>
      obtain ⟨line, order, credit, posted⟩ := posted_transaction result
      exact Or.inr ⟨line, order, credit, posted.balanced⟩
  | received | alreadyInvoiced | alreadyRecorded | unknownInvoice | resolved
  | refused | aborted => exact Or.inl rfl

/-- Stored entries are never changed or removed. -/
theorem creditItems_prefix {guard : Guard BillingSystem BillingAction}
    {system later : BillingSystem} (path : Reachable step guard system later) :
    system.db.creditItems <+: later.db.creditItems := by
  induction path with
  | refl => exact List.prefix_refl _
  | tail _ _ stepped inductionHypothesis =>
      apply inductionHypothesis.trans
      rcases lines_step stepped with same | ⟨_, _, _, commit⟩
      · exact same ▸ List.prefix_refl _
      · exact commit.kept

/-- What holds of a credit line in a committed state: no order owes it
anything, their exposures are within its limit, and each has one hold at
most. -/
structure LineBalanced (db : BillingDb) (line : CreditRow) : Prop where
  nonneg : ∀ order, 0 ≤ (orderExposure (db.ledgerOf line) order).exposure
  within : (summariseLedger (db.ledgerOf line)).committedExposure ≤
    line.creditLimit
  oneHold : ∀ order, ((db.ledgerOf line).filter fun entry =>
    entry.orderReference = order ∧ entry.type = .hold).length ≤ 1

/-- Whatever requests the service takes, of any orders on any lines and in any
interleaving, every line balances in every state, and every commit on a line
counts, keeps, reports and gives back what the ledger says. -/
theorem credit_lines_balanced (catalogue : CreditCatalogue)
    {system : BillingSystem}
    (reached : Reachable step NonnegativeHolds (initial catalogue) system) :
    (∀ line ∈ system.db.credits, LineBalanced system.db line) ∧
      (∀ later, Reachable step NonnegativeHolds system later →
        system.db.creditItems <+: later.db.creditItems) ∧
      ∀ action system', step system action = some system' →
        system'.db = system.db ∨ ∃ line order credit,
          system.db.CommitBalanced system'.db line order credit := by
  have kept : system.LinesKept := reached.invariant (linesKept_initial catalogue)
    fun _ _ _ kept nonneg stepped => linesKept_step kept nonneg stepped
  refine ⟨fun line lineMem => ?_, fun later path => creditItems_prefix path,
    fun action system' stepped => lines_step stepped⟩
  constructor
  · intro order
    rw [orderExposure_ledgerOf]
    exact kept.balanced.nonneg line.id order
  · rw [committedExposure_ledgerOf]
    exact kept.sound.within line lineMem
  · intro order
    have one := kept.balanced.oneHold line.id order
    rw [itemsOf, List.countP_filter, List.countP_eq_length_filter] at one
    rw [ledgerOf, List.filter_map, List.length_map, List.filter_filter]
    refine Nat.le_trans (Nat.le_of_eq (congrArg List.length ?_)) one
    refine List.filter_congr fun row _ => ?_
    simp only [Function.comp_apply, CreditItemRow.toEntry, ← Bool.decide_and]
    exact decide_eq_decide.mpr (by tauto)

/-! ## A run of it -/

/-- Two orders are held on one line; the first is invoiced and paid, the second
is released in between. -/
def paidBesideReleased : List BillingAction :=
  [ .receive (.creditHold (holdOf 1 600)),
    .receive (.creditHold (holdOf 2 300)),
    .run 1 false,
    .run 0 false,
    .receive (.invoiceIssue ⟨⟨1⟩, "RET-0001", "COM-0001", "EUR",
      [⟨"PRD-0001", 3, 200⟩], 0⟩),
    .receive (.creditRelease ⟨⟨2⟩, "RET-0001", "COM-0001"⟩),
    .run 0 false,
    .run 0 false,
    .receive (.paymentRegister
      ⟨.absent, .given 1, ⟨"PAY-0001", "PAY-0001"⟩, ⟨600, .eur⟩, .robot⟩),
    .locate 0,
    .run 0 false ]

theorem paid_lines_balanced :
    ∃ system,
      execute step (fun state action => decide (NonnegativeHolds state action))
        (initial thousandLimit) paidBesideReleased = some system ∧
      (system.db.creditItems.map fun row => (row.orderReference, row.amount)) =
        [(⟨2⟩, 300), (⟨1⟩, 600), (⟨1⟩, 600), (⟨2⟩, 300), (⟨1⟩, 600)] ∧
      ∀ line ∈ system.db.credits, LineBalanced system.db line := by
  have runs : (execute step
      (fun state action => decide (NonnegativeHolds state action))
        (initial thousandLimit) paidBesideReleased).map
          (fun system => system.db.creditItems.map fun row =>
            (row.orderReference, row.amount)) =
      some [(⟨2⟩, 300), (⟨1⟩, 600), (⟨1⟩, 600), (⟨2⟩, 300), (⟨1⟩, 600)] := by
    decide
  obtain ⟨system, ran, ledger⟩ := Option.map_eq_some_iff.mp runs
  exact ⟨system, ran, ledger,
    (credit_lines_balanced thousandLimit (reachable_of_execute ran)).1⟩

end BillingSystem

end OrderToCash.Billing
