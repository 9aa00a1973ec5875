import Mathlib.Data.Prod.Lex
import OrderToCash.Billing.CreditView
import OrderToCash.Table.Paging

/-!
# The invoice read model

A page of the invoices, newest first.  Two invoices of one date stand by their
references, which no two invoices share, so the listing of a table is one only.
-/

namespace OrderToCash.Billing

open OrderToCash.Contracts
open OrderToCash.Kernel
open OrderToCash.Table

/-- A row of `invoices` with the instants the listing reads, in milliseconds. -/
structure InvoiceTableRow extends InvoiceRow where
  invoiceDate : Int
  paidAt : Option Int
deriving DecidableEq, Repr

structure InvoiceListRequest where
  status : Option InvoiceStatus
  retailerCode : Option String
  companyCode : Option String
  orderReference : Option OrderNumber
  issuedBeforeMinutes : Option Int
  page : Option Int
  pageSize : Option Int
deriving DecidableEq, Repr

structure InvoiceView where
  invoiceId : UniqueId
  invoiceReference : Nat
  invoiceDate : Int
  orderReference : OrderNumber
  retailerCode : String
  companyCode : String
  currency : CurrencyCode
  amount : Int
  discount : Int
  totalAmount : Int
  status : InvoiceStatus
  paidAt : Option Int
deriving DecidableEq, Repr

structure InvoiceListReply where
  items : List InvoiceView
  page : PageInfo
deriving DecidableEq, Repr

/-- The `invoices` table: no two rows of one identifier or one reference. -/
structure InvoiceTable where
  rows : List InvoiceTableRow
  nodup_ids : (rows.map fun row => row.id).Nodup
  nodup_references : (rows.map fun row => row.invoiceReference).Nodup

/-- The highest page size a request may ask for. -/
def maxPageSize : Int := 200

/-- `InvoiceListRequestDto`: the fields whose bounds a request breaks. -/
def InvoiceListRequest.violations (query : InvoiceListRequest) : List String :=
  (if query.issuedBeforeMinutes.all (0 ≤ ·) then [] else ["issuedBeforeMinutes"]) ++
    (if query.page.all (1 ≤ ·) then [] else ["page"]) ++
    (if query.pageSize.all fun size => 1 ≤ size ∧ size ≤ maxPageSize then []
      else ["pageSize"])

namespace InvoiceTableRow

/-- What the listing orders by: the date, then the reference. -/
def listingKey (row : InvoiceTableRow) : Int ×ₗ Nat :=
  toLex (row.invoiceDate, row.invoiceReference)

def toInvoiceView (row : InvoiceTableRow) : InvoiceView :=
  { invoiceId := row.id
    invoiceReference := row.invoiceReference
    invoiceDate := row.invoiceDate
    orderReference := row.orderReference
    retailerCode := row.retailerCode
    companyCode := row.companyCode
    currency := row.currencyCode
    amount := row.amount
    discount := row.discount
    totalAmount := row.totalAmount
    status := row.status
    paidAt := row.paidAt }

/-- The conditions of a request, for the ones it names. -/
def matchesQuery (query : InvoiceListRequest) (now : Int)
    (row : InvoiceTableRow) : Bool :=
  query.status.all (row.status = ·) ∧
    query.retailerCode.all (row.retailerCode = ·) ∧
    query.companyCode.all (row.companyCode = ·) ∧
    query.orderReference.all (row.orderReference = ·) ∧
    query.issuedBeforeMinutes.all fun minutes =>
      row.invoiceDate ≤ now - minutes * 60000

end InvoiceTableRow

namespace InvoiceTable

/-- `ORDER BY invoice_date DESC, invoice_reference DESC`. -/
def listing (table : InvoiceTable) (query : InvoiceListRequest) (now : Int) :
    List InvoiceTableRow :=
  (table.rows.filter (·.matchesQuery query now)).insertionSort
    fun first second => second.listingKey ≤ first.listingKey

/-- `DrizzleInvoiceReadRepository.list`. -/
def list (table : InvoiceTable) (query : InvoiceListRequest) (now : Int) :
    InvoiceListReply :=
  let page := (query.page.map Int.toNat).getD defaultPage
  let pageSize := (query.pageSize.map Int.toNat).getD defaultPageSize
  { items := (pageAt pageSize page (table.listing query now)).map
      InvoiceTableRow.toInvoiceView
    page :=
      { page := page
        pageSize := pageSize
        total := (table.rows.filter (·.matchesQuery query now)).length } }

/-- The responder of `billing.invoice.list`: a request out of bounds is refused
before the query runs. -/
def handleList (table : InvoiceTable) (query : InvoiceListRequest) (now : Int) :
    Except RpcErrorCode InvoiceListReply :=
  if query.violations = [] then
    .ok (table.list query now)
  else
    .error .validationFailed

/-! ## The listing -/

theorem perm_listing (table : InvoiceTable) (query : InvoiceListRequest)
    (now : Int) :
    (table.listing query now).Perm
      (table.rows.filter (·.matchesQuery query now)) :=
  List.perm_insertionSort _ _

theorem descending_listing (table : InvoiceTable) (query : InvoiceListRequest)
    (now : Int) :
    Descending InvoiceTableRow.listingKey (table.listing query now) :=
  descending_insertionSort _ _

theorem nodup_listingKeys (table : InvoiceTable) :
    (table.rows.map InvoiceTableRow.listingKey).Nodup := by
  have references : (table.rows.map InvoiceTableRow.listingKey).map
      (fun key => (ofLex key).2) = table.rows.map fun row => row.invoiceReference := by
    rw [List.map_map]
    rfl
  exact List.Nodup.of_map _ (references ▸ table.nodup_references)

/-- The rows of an unfiltered listing, each once. -/
theorem perm_listing_of_unfiltered (table : InvoiceTable)
    {query : InvoiceListRequest} {now : Int}
    (unfiltered : ∀ row ∈ table.rows, row.matchesQuery query now) :
    (table.listing query now).Perm table.rows := by
  have all : table.rows.filter (·.matchesQuery query now) = table.rows :=
    List.filter_eq_self.mpr unfiltered
  exact all ▸ table.perm_listing query now

theorem eq_of_id_eq (table : InvoiceTable) {first second : InvoiceTableRow}
    (firstMem : first ∈ table.rows) (secondMem : second ∈ table.rows)
    (sameId : first.id = second.id) : first = second :=
  List.inj_on_of_nodup_map table.nodup_ids firstMem secondMem sameId

end InvoiceTable

end OrderToCash.Billing
