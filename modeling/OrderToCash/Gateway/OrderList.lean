import Mathlib.Order.WithBot
import Mathlib.Data.String.Basic
import OrderToCash.Billing.CreditView
import OrderToCash.Table.Paging
import OrderToCash.Web.OrderDetail

/-!
# The order list

A page of the read model's orders, newest first.  The documents a filter selects
are counted and paged by the database; those whose header is not there yet are
dropped from a page afterwards.  The sort is by date alone, and documents of one
date come in an order of the query's own.
-/

namespace OrderToCash.Gateway

open OrderToCash.Billing (PageInfo)
open OrderToCash.Contracts (CancellationReason)
open OrderToCash.Kernel
open OrderToCash.Orders (OrderStatus)
open OrderToCash.Projector (OrderTimelineDocument)
open OrderToCash.Table
open OrderToCash.Web (PartyRef partyRef)

/-- `ORD-######`. -/
def orderReferenceText (reference : OrderNumber) : String :=
  "ORD-" ++ String.ofList ((Nat.toDigits 10 reference.sequence).leftpad 6 '0')

def orderStatusText : OrderStatus → String
  | .placed => "placed"
  | .stockReserved => "stock_reserved"
  | .creditApproved => "credit_approved"
  | .confirmed => "confirmed"
  | .despatched => "despatched"
  | .invoiced => "invoiced"
  | .paid => "paid"
  | .completed => "completed"
  | .cancelled => "cancelled"

/-- An empty text counts as absent. -/
def truthy (text : Option String) : Option String :=
  text.filter (· ≠ "")

/-- What a request asks for, page and page size already in bounds. -/
structure OrderListFilter where
  status : Option (List String)
  retailerCode : Option String
  companyCode : Option String
  orderReference : Option String
  page : Nat
  pageSize : Nat
  page_pos : 0 < page
  pageSize_pos : 0 < pageSize

structure OrderSummaryTotals where
  initialAmount : Int
  initialDiscount : Int
  totalAmount : Int
deriving DecidableEq, Repr

structure OrderSummary where
  orderId : OrderNumber
  orderReference : OrderNumber
  orderDate : String
  retailer : PartyRef
  company : PartyRef
  status : OrderStatus
  cancellationReason : Option CancellationReason
  currency : String
  totals : OrderSummaryTotals
  updatedAt : String
deriving DecidableEq, Repr

/-- The shape of a row of `GET /orders`, unless a part of the header is not there
yet. -/
def toOrderSummary (document : OrderTimelineDocument) : Option OrderSummary := do
  let retailer ← partyRef document.retailer
  let company ← partyRef document.company
  let orderReference ← document.orderReference
  let orderDate ← truthy document.orderDate
  let currency ← truthy document.currency
  let totalAmount ← document.totals.totalAmount
  some
    { orderId := document.orderId
      orderReference := orderReference
      orderDate := orderDate
      retailer := retailer
      company := company
      status := document.status
      cancellationReason := document.cancellationReason
      currency := currency
      totals :=
        { initialAmount := document.totals.initialAmount.getD 0
          initialDiscount := document.totals.initialDiscount.getD 0
          totalAmount := totalAmount }
      updatedAt := document.updatedAt }

/-- The documents of `order_timeline`, each of an identifier of its own. -/
structure OrderCollection where
  documents : List OrderTimelineDocument
  nodup_ids : (documents.map OrderTimelineDocument.orderId).Nodup

namespace OrderListFilter

/-- The conditions of the query; no statuses and empty texts are none. -/
def selects (filter : OrderListFilter) (document : OrderTimelineDocument) : Bool :=
  (filter.status.filter (· ≠ [])).all (orderStatusText document.status ∈ ·) ∧
    (truthy filter.retailerCode).all (document.retailer.code = some ·) ∧
    (truthy filter.companyCode).all (document.company.code = some ·) ∧
    (truthy filter.orderReference).all
      (document.orderReference.map orderReferenceText = some ·)

/-- The same request for another page. -/
def atPage (filter : OrderListFilter) (page : Nat) : OrderListFilter :=
  { filter with page := page + 1, page_pos := page.succ_pos }

end OrderListFilter

/-- The date a document is sorted by; documents without one come last. -/
def dateKey (document : OrderTimelineDocument) : WithBot String :=
  document.orderDate

def OrderCollection.selected (collection : OrderCollection)
    (filter : OrderListFilter) : List OrderTimelineDocument :=
  collection.documents.filter filter.selects

/-- What the database decides on its own: how it lists the documents each query
selects, by descending dates. -/
structure MongoSession (collection : OrderCollection) where
  listed : OrderListFilter → List OrderTimelineDocument
  listed_perm : ∀ filter, (listed filter).Perm (collection.selected filter)
  listed_sorted : ∀ filter, Descending dateKey (listed filter)

structure OrderListResult where
  items : List OrderTimelineDocument
  total : Nat

structure OrderSummaryPage where
  items : List OrderSummary
  page : PageInfo

namespace MongoSession

variable {collection : OrderCollection} (session : MongoSession collection)

/-- `MongoOrderReadModelAdapter.list`. -/
def list (filter : OrderListFilter) : OrderListResult :=
  { items := pageAt filter.pageSize filter.page (session.listed filter)
    total := (collection.selected filter).length }

/-- `ListOrdersHandler.execute`. -/
def execute (filter : OrderListFilter) : OrderSummaryPage :=
  let result := session.list filter
  { items := result.items.filterMap toOrderSummary
    page :=
      { page := filter.page
        pageSize := filter.pageSize
        total := result.total } }

/-! ## Pages that partition -/

/-- How many pages a total takes. -/
def pageCount (total pageSize : Nat) : Nat :=
  (total + pageSize - 1) / pageSize

/-- The orders on the pages a request's total takes, page after page. -/
def ordersOnPages (filter : OrderListFilter) : List OrderSummary :=
  (List.range (pageCount (session.execute filter).page.total filter.pageSize)).flatMap
    fun page => (session.execute (filter.atPage page)).items

/-- The pages list each matching order of a complete header once and nothing
else, and every page's total says how many these are. -/
structure Partitions (filter : OrderListFilter) : Prop where
  once : ((session.ordersOnPages filter).map OrderSummary.orderId).Perm
    (((collection.selected filter).filter (·.headerComplete)).map
      OrderTimelineDocument.orderId)
  total : ∀ page, (session.execute (filter.atPage page)).page.total =
    (session.ordersOnPages filter).length

end MongoSession

end OrderToCash.Gateway
