import OrderToCash.Billing.InvoiceList
import OrderToCash.Checked.Except

/-!
# Registering a payment

The path names an invoice by its identifier and the request needs its order, so
the gateway reads the invoice list page by page until it meets the invoice.  A
page that is not full ends the list; a full page after the page limit ends the
search only.  Invoices are inserted and paid while the pages are read.
-/

namespace OrderToCash.Gateway

open OrderToCash.Billing
open OrderToCash.Checked
open OrderToCash.Contracts
open OrderToCash.Kernel
open OrderToCash.Table

/-- How a remote call fails. -/
inductive RpcFailure
  | timeout
  | transport
  | business (code : RpcErrorCode)
deriving DecidableEq, Repr

inductive RegisterPaymentError
  | invoiceNotFound (invoiceId : UniqueId)
  | invoiceScanBudgetExceeded (invoiceId : UniqueId) (scannedCount : Nat)
  | orderNotYetProjected (orderReference : OrderNumber)
  | rpc (failure : RpcFailure)
deriving DecidableEq, Repr

def invoiceScanPageSize : Nat := 200

def invoiceScanMaxPages : Nat := 5

/-- The request for a page of the scan. -/
def scanRequest (page : Nat) : InvoiceListRequest :=
  { status := none
    retailerCode := none
    companyCode := none
    orderReference := none
    issuedBeforeMinutes := none
    page := some page
    pageSize := some invoiceScanPageSize }

/-- The invoice list as it answers the call for each page. -/
abbrev InvoiceListCall := Nat → InvoiceListRequest → Except RpcFailure InvoiceListReply

/-- The loop of `resolveOrderReference` from a page on. -/
def scanFrom (call : InvoiceListCall) (invoiceId : UniqueId) :
    Nat → Nat → Nat → Except RegisterPaymentError OrderNumber
  | 0, _, scannedCount => .error (.invoiceScanBudgetExceeded invoiceId scannedCount)
  | pagesLeft + 1, page, scannedCount =>
      match call page (scanRequest page) with
      | .error failure => .error (.rpc failure)
      | .ok listReply =>
          let scannedCount := scannedCount + listReply.items.length
          match listReply.items.find? (·.invoiceId = invoiceId) with
          | some item => .ok item.orderReference
          | none =>
              if listReply.items.length < invoiceScanPageSize then
                .error (.invoiceNotFound invoiceId)
              else
                scanFrom call invoiceId pagesLeft (page + 1) scannedCount

def resolveOrderReference (call : InvoiceListCall) (invoiceId : UniqueId) :
    Except RegisterPaymentError OrderNumber :=
  scanFrom call invoiceId invoiceScanMaxPages 1 0

structure RegisterPaymentRequestBody where
  paymentReference : PaymentReference
  amount : Money
  source : PaymentSource
deriving DecidableEq, Repr

/-- What the handler calls: the invoice list, the read model's orders by their
references, and the payment responder with the order it is about. -/
structure RegisterPaymentPorts (Reply : Type) where
  invoiceList : InvoiceListCall
  findByOrderReference : OrderNumber → Option OrderNumber
  registerPayment : PaymentRegisterRequest → OrderNumber → Except RpcFailure Reply

/-- `RegisterPaymentHandler.execute`. -/
def RegisterPaymentPorts.execute {Reply : Type} (ports : RegisterPaymentPorts Reply)
    (invoiceId : UniqueId) (body : RegisterPaymentRequestBody) :
    Except RegisterPaymentError (Reply × OrderNumber) := do
  let orderReference ← resolveOrderReference ports.invoiceList invoiceId
  match ports.findByOrderReference orderReference with
  | none => .error (.orderNotYetProjected orderReference)
  | some orderId =>
      let payload : PaymentRegisterRequest :=
        { invoiceId := .given invoiceId.text
          invoiceReference := .absent
          paymentReference := body.paymentReference
          amount := body.amount
          source := body.source }
      match ports.registerPayment payload orderId with
      | .error failure => .error (.rpc failure)
      | .ok reply => .ok (reply, orderId)

/-! ## The table while it is read -/

/-- A later table holds every invoice of an earlier one.  Its status and the
instant it was paid at may have changed, what it is listed by has not. -/
def Keeps (before after : InvoiceTable) : Prop :=
  ∀ row ∈ before.rows, ∃ kept ∈ after.rows, kept.id = row.id ∧
    kept.invoiceDate = row.invoiceDate ∧
    kept.invoiceReference = row.invoiceReference ∧
    kept.orderReference = row.orderReference

/-- The table at the start and at each page read, with Billing's clock. -/
structure InvoiceHistory where
  tables : Nat → InvoiceTable
  clock : Nat → Int
  keeps : ∀ read, Keeps (tables read) (tables (read + 1))

/-- Billing answers each call from the table as it is then. -/
def InvoiceHistory.answer (history : InvoiceHistory) : InvoiceListCall :=
  fun read query =>
    match (history.tables read).handleList query (history.clock read) with
    | .error code => .error (.business code)
    | .ok reply => .ok reply

theorem Keeps.listingKeys {before after : InvoiceTable} (keeps : Keeps before after) :
    before.rows.map InvoiceTableRow.listingKey ⊆
      after.rows.map InvoiceTableRow.listingKey := by
  intro key keyMem
  rcases List.mem_map.mp keyMem with ⟨row, rowMem, rfl⟩
  rcases keeps row rowMem with ⟨kept, keptMem, -, sameDate, sameReference, -⟩
  have sameKey : kept.listingKey = row.listingKey := by
    unfold InvoiceTableRow.listingKey
    rw [sameDate, sameReference]
  exact sameKey ▸ List.mem_map_of_mem keptMem

/-! ## The scan -/

/-- What a call for a page of the scan is answered: the page of all invoices. -/
theorem InvoiceHistory.answer_scanRequest (history : InvoiceHistory) (page : Nat) :
    ∃ reply, history.answer (page + 1) (scanRequest (page + 1)) = .ok reply ∧
      reply.items = (pageAt invoiceScanPageSize (page + 1)
        ((history.tables (page + 1)).listing (scanRequest (page + 1))
          (history.clock (page + 1)))).map InvoiceTableRow.toInvoiceView := by
  have accepted : (scanRequest (page + 1)).violations = [] := by
    simp [InvoiceListRequest.violations, scanRequest, invoiceScanPageSize,
      maxPageSize]
  refine ⟨(history.tables (page + 1)).list (scanRequest (page + 1))
    (history.clock (page + 1)), ?_, ?_⟩
  · simp [InvoiceHistory.answer, InvoiceTable.handleList, accepted]
  · simp [InvoiceTable.list, scanRequest]

theorem perm_listing_scanRequest (table : InvoiceTable) (page : Nat) (now : Int) :
    (table.listing (scanRequest page) now).Perm table.rows := by
  apply table.perm_listing_of_unfiltered
  intro row _
  simp [InvoiceTableRow.matchesQuery, scanRequest]

/-- The sought invoice as a table has it, behind the pages read before. -/
structure Behind (table : InvoiceTable) (sought : InvoiceTableRow)
    (pagesRead : Nat) (row : InvoiceTableRow) : Prop where
  mem : row ∈ table.rows
  id_eq : row.id = sought.id
  orderReference_eq : row.orderReference = sought.orderReference
  behind : pagesRead * invoiceScanPageSize ≤
    rankOf InvoiceTableRow.listingKey row.listingKey table.rows

/-- Invoices that are added leave the sought one behind the pages read. -/
theorem Behind.keep {before after : InvoiceTable} (keeps : Keeps before after)
    {sought row : InvoiceTableRow} {pagesRead : Nat}
    (stands : Behind before sought pagesRead row) :
    ∃ kept, Behind after sought pagesRead kept := by
  rcases keeps row stands.mem with
    ⟨kept, keptMem, sameId, sameDate, sameReference, sameOrder⟩
  have sameKey : kept.listingKey = row.listingKey := by
    unfold InvoiceTableRow.listingKey
    rw [sameDate, sameReference]
  have further := rankOf_le_rankOf before.nodup_listingKeys keeps.listingKeys
    row.listingKey
  exact ⟨kept, keptMem, sameId.trans stands.id_eq,
    sameOrder.trans stands.orderReference_eq,
    sameKey ▸ stands.behind.trans further⟩

/-- A row of a sought identifier is the sought invoice. -/
theorem Behind.eq_of_id_eq {table : InvoiceTable} {sought row : InvoiceTableRow}
    {pagesRead : Nat} (stands : Behind table sought pagesRead row)
    {other : InvoiceTableRow} (otherMem : other ∈ table.rows)
    (sameId : other.id = sought.id) : other = row :=
  table.eq_of_id_eq otherMem stands.mem (sameId.trans stands.id_eq.symm)

/-- The next page shows the sought invoice, or it is full and the invoice is
behind it too. -/
theorem Behind.next {table : InvoiceTable} {sought row : InvoiceTableRow}
    {pagesRead : Nat} (stands : Behind table sought pagesRead row)
    {listing : List InvoiceTableRow} (perm : listing.Perm table.rows)
    (sorted : Descending InvoiceTableRow.listingKey listing)
    {items : List InvoiceView}
    (shown : items = (pageAt invoiceScanPageSize (pagesRead + 1) listing).map
      InvoiceTableRow.toInvoiceView) :
    (∃ item, items.find? (·.invoiceId = sought.id) = some item ∧
        item.orderReference = sought.orderReference) ∨
      (items.find? (·.invoiceId = sought.id) = none ∧
        items.length = invoiceScanPageSize ∧
        Behind table sought (pagesRead + 1) row) := by
  cases found : items.find? (·.invoiceId = sought.id) with
  | some item =>
      have itemMem := List.mem_of_find?_eq_some found
      rw [shown] at itemMem
      rcases List.mem_map.mp itemMem with ⟨other, onPage, rfl⟩
      have sameId : other.id = sought.id := by
        have selected := List.find?_some found
        exact of_decide_eq_true selected
      have otherMem := perm.mem_iff.mp (mem_of_mem_pageAt onPage)
      have same := stands.eq_of_id_eq otherMem sameId
      exact Or.inl ⟨_, rfl, same ▸ stands.orderReference_eq⟩
  | none =>
      have listed : row ∈ listing := perm.mem_iff.mpr stands.mem
      have distinct : (listing.map InvoiceTableRow.listingKey).Nodup :=
        (perm.map _).nodup_iff.mpr table.nodup_listingKeys
      have sameRank : rankOf InvoiceTableRow.listingKey row.listingKey listing =
          rankOf InvoiceTableRow.listingKey row.listingKey table.rows :=
        rankOf_eq_of_perm perm _
      have absent : row ∉ pageAt invoiceScanPageSize (pagesRead + 1) listing := by
        intro onPage
        have itemMem : row.toInvoiceView ∈ items := by
          rw [shown]
          exact List.mem_map_of_mem onPage
        have unselected := List.find?_eq_none.mp found _ itemMem
        exact unselected (decide_eq_true stands.id_eq)
      have behind := succ_mul_le_rankOf sorted distinct listed
        (sameRank ▸ stands.behind) absent
      have full : items.length = invoiceScanPageSize := by
        rw [shown, List.length_map]
        exact length_pageAt_of_behind listed behind
      exact Or.inr ⟨rfl, full,
        { stands with behind := sameRank ▸ behind }⟩

/-- The loop from a page on, for an invoice behind the pages read before. -/
theorem scanFrom_of_behind (history : InvoiceHistory) {sought : InvoiceTableRow}
    (pagesLeft pagesRead : Nat) {row : InvoiceTableRow}
    (stands : Behind (history.tables pagesRead) sought pagesRead row) :
    scanFrom history.answer sought.id pagesLeft (pagesRead + 1)
        (pagesRead * invoiceScanPageSize) = .ok sought.orderReference ∨
      (scanFrom history.answer sought.id pagesLeft (pagesRead + 1)
          (pagesRead * invoiceScanPageSize) =
        .error (.invoiceScanBudgetExceeded sought.id
          ((pagesRead + pagesLeft) * invoiceScanPageSize)) ∧
        ∃ last, Behind (history.tables (pagesRead + pagesLeft)) sought
          (pagesRead + pagesLeft) last) := by
  induction pagesLeft generalizing pagesRead row with
  | zero => exact Or.inr ⟨rfl, row, stands⟩
  | succ pagesLeft inductionHypothesis =>
      rcases stands.keep (history.keeps pagesRead) with ⟨kept, keptStands⟩
      rcases history.answer_scanRequest pagesRead with ⟨reply, answered, shown⟩
      rcases keptStands.next (perm_listing_scanRequest _ _ _)
          (InvoiceTable.descending_listing _ _ _) shown with
        ⟨item, found, ownReference⟩ | ⟨notFound, full, further⟩
      · left
        simp only [scanFrom, answered, found, ownReference]
      · have onward : scanFrom history.answer sought.id (pagesLeft + 1)
            (pagesRead + 1) (pagesRead * invoiceScanPageSize) =
            scanFrom history.answer sought.id pagesLeft (pagesRead + 1 + 1)
              ((pagesRead + 1) * invoiceScanPageSize) := by
          simp only [scanFrom, answered, notFound, full, lt_irrefl, if_false,
            Nat.succ_mul]
        have sum : pagesRead + 1 + pagesLeft = pagesRead + (pagesLeft + 1) := by
          omega
        rw [onward]
        exact sum ▸ inductionHypothesis (pagesRead + 1) further

/-- An invoice that exists when the scan starts is found, unless the table holds
more invoices than the scan may read. -/
theorem resolveOrderReference_of_mem (history : InvoiceHistory)
    {sought : InvoiceTableRow} (existed : sought ∈ (history.tables 0).rows) :
    resolveOrderReference history.answer sought.id = .ok sought.orderReference ∨
      (resolveOrderReference history.answer sought.id =
          .error (.invoiceScanBudgetExceeded sought.id
            (invoiceScanMaxPages * invoiceScanPageSize)) ∧
        invoiceScanMaxPages * invoiceScanPageSize <
          (history.tables invoiceScanMaxPages).rows.length) := by
  have start : Behind (history.tables 0) sought 0 sought :=
    ⟨existed, rfl, rfl, by simp⟩
  have scanned := scanFrom_of_behind history invoiceScanMaxPages 0 start
  simp only [Nat.zero_mul, Nat.zero_add] at scanned
  rcases scanned with resolved | ⟨exceeded, last, stands⟩
  · exact Or.inl resolved
  · exact Or.inr ⟨exceeded, stands.behind.trans_lt (rankOf_lt_length stands.mem)⟩

theorem RegisterPaymentPorts.execute_ne_invoiceNotFound {Reply : Type}
    (ports : RegisterPaymentPorts Reply) {invoiceId : UniqueId}
    (resolves : ∀ denied, resolveOrderReference ports.invoiceList invoiceId ≠
      .error (.invoiceNotFound denied))
    (body : RegisterPaymentRequestBody) (denied : UniqueId) :
    ports.execute invoiceId body ≠ .error (.invoiceNotFound denied) := by
  intro answered
  rcases bind_eq_error_iff.mp answered with
    unresolved | ⟨orderReference, -, failed⟩
  · exact resolves denied unresolved
  · split at failed
    · cases failed
    · dsimp only at failed
      split at failed <;> cases failed

/-- The scan never denies an invoice that exists when it starts: it resolves to
the invoice's own order or ends with its budget exceeded, and resolves while
there are fewer invoices than it may read. -/
theorem scan_never_denies (history : InvoiceHistory) {sought : InvoiceTableRow}
    (existed : sought ∈ (history.tables 0).rows) :
    (resolveOrderReference history.answer sought.id = .ok sought.orderReference ∨
      resolveOrderReference history.answer sought.id =
        .error (.invoiceScanBudgetExceeded sought.id
          (invoiceScanMaxPages * invoiceScanPageSize))) ∧
    (∀ (Reply : Type) (ports : RegisterPaymentPorts Reply),
      ports.invoiceList = history.answer →
        ∀ (body : RegisterPaymentRequestBody) (denied : UniqueId),
          ports.execute sought.id body ≠ .error (.invoiceNotFound denied)) ∧
    ((∀ read ≤ invoiceScanMaxPages, (history.tables read).rows.length <
        invoiceScanMaxPages * invoiceScanPageSize) →
      resolveOrderReference history.answer sought.id =
        .ok sought.orderReference) := by
  rcases resolveOrderReference_of_mem history existed with
    resolved | ⟨exceeded, more⟩
  · constructor
    · exact Or.inl resolved
    · constructor
      · intro Reply ports listed
        apply ports.execute_ne_invoiceNotFound
        simp [listed, resolved]
      · intro _
        exact resolved
  · constructor
    · exact Or.inr exceeded
    · constructor
      · intro Reply ports listed
        apply ports.execute_ne_invoiceNotFound
        simp [listed, exceeded]
      · intro fewer
        exact absurd (fewer invoiceScanMaxPages le_rfl) more.not_gt

/-- An invoice of one order, issued at a date. -/
def issuedInvoice (number : Nat) (invoiceDate : Int) : InvoiceTableRow :=
  { id := ⟨number⟩
    invoiceReference := number
    companyCode := "ACME"
    retailerCode := "CARREFOUR"
    orderReference := ⟨number⟩
    amount := 100
    discount := 0
    totalAmount := 100
    currencyCode := .eur
    status := .issued
    items := []
    invoiceDate := invoiceDate
    paidAt := none }

/-- Two invoices of one second, the newer reference inserted once the scan has
started. -/
def insertedAhead : InvoiceHistory :=
  { tables := fun
      | 0 => ⟨[issuedInvoice 1 0], by decide, by decide⟩
      | _ + 1 => ⟨[issuedInvoice 1 0, issuedInvoice 2 0], by decide, by decide⟩
    clock := fun _ => 0
    keeps := by
      intro read row rowMem
      cases read with
      | zero => exact ⟨row, List.mem_append_left _ rowMem, rfl, rfl, rfl, rfl⟩
      | succ read => exact ⟨row, rowMem, rfl, rfl, rfl, rfl⟩ }

theorem scan_resolves_insertedAhead :
    (insertedAhead.answer 1 (scanRequest 1)).map
        (fun reply => reply.items.map fun item => item.invoiceId.value) =
      .ok [2, 1] ∧
    resolveOrderReference insertedAhead.answer ⟨1⟩ = .ok ⟨1⟩ := by
  have few : ∀ read ≤ invoiceScanMaxPages,
      (insertedAhead.tables read).rows.length <
        invoiceScanMaxPages * invoiceScanPageSize := by
    intro read _
    cases read with
    | zero => decide
    | succ read => exact (by decide : 2 < 1000)
  have existed : issuedInvoice 1 0 ∈ (insertedAhead.tables 0).rows :=
    List.mem_singleton_self _
  exact ⟨by decide +kernel, (scan_never_denies insertedAhead existed).2.2 few⟩

end OrderToCash.Gateway
