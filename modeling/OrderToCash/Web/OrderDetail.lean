import OrderToCash.Causal.StableSort
import OrderToCash.Projector.Signal

/-!
# The cached order detail

What a page reads of an order is the gateway's shape of its document.  The live
frames change the cached detail in place: one its header fields, the other its
timeline, which the page sorts by time alone.
-/

namespace OrderToCash.Web

open OrderToCash.Causal
open OrderToCash.Contracts
open OrderToCash.Kernel
open OrderToCash.Orders
open OrderToCash.Projector

structure PartyRef where
  code : String
  name : Option String
  gln : String
deriving DecidableEq, Repr

structure OrderDetail where
  orderId : OrderNumber
  orderReference : Option OrderNumber
  orderDate : Option String
  retailer : Option PartyRef
  company : Option PartyRef
  status : OrderStatus
  cancellationReason : Option CancellationReason
  currency : Option String
  totals : Option Projector.OrderTotals
  items : List OrderItem
  references : OrderReferences
  events : List TimelineEntry
  headerComplete : Bool
  updatedAt : String
deriving DecidableEq, Repr

/-- An empty code or number counts as absent. -/
def partyRef (party : OrderParty) : Option PartyRef :=
  match party.code, party.gln with
  | some code, some gln =>
      if code = "" ∨ gln = "" then none
      else some ⟨code, party.name.filter (· ≠ ""), gln⟩
  | _, _ => none

/-- Totals are given once there is a total. -/
def detailTotals (totals : Projector.OrderTotals) :
    Option Projector.OrderTotals :=
  totals.totalAmount.map fun totalAmount =>
    { initialAmount := some (totals.initialAmount.getD 0)
      initialDiscount := some (totals.initialDiscount.getD 0)
      totalAmount := some totalAmount }

/-- The shape of `GET /orders/{id}`. -/
def toOrderDetail (document : OrderTimelineDocument) : OrderDetail :=
  { orderId := document.orderId
    orderReference := document.orderReference
    orderDate := document.orderDate
    retailer := partyRef document.retailer
    company := partyRef document.company
    status := document.status
    cancellationReason := document.cancellationReason
    currency := document.currency
    totals := detailTotals document.totals
    items := document.items
    references := document.references
    events := document.events
    headerComplete := document.headerComplete
    updatedAt := document.updatedAt }

/-- The header fields of a frame; an absent reason keeps the cached one.  The
references and the totals of a frame are objects even where their fields are
absent, and replace the cached ones. -/
def applyOrderStreamUpdate (update : OrderStreamUpdate) (detail : OrderDetail) :
    OrderDetail :=
  { detail with
    status := update.status
    cancellationReason := update.cancellationReason.or detail.cancellationReason
    references := update.references
    totals := some update.totals
    updatedAt := update.occurredAt }

/-- The entry a frame appends. -/
def appendedEntry (entry : TimelineStreamEntry) : TimelineEntry :=
  { eventId := entry.eventId
    eventType := entry.eventType
    occurredAt := entry.occurredAt
    summary := entry.summary
    causationId := entry.causationId
    detail := none
    statusRank := none }

/-- The timeline with a frame's entry. -/
def appendEntry (entry : TimelineStreamEntry) (events : List TimelineEntry) :
    List TimelineEntry :=
  if entry.eventId ∈ events.map TimelineEntry.eventId then events
  else sortByKey TimelineEntry.occurredAt (events ++ [appendedEntry entry])

def applyTimelineAppended (entry : TimelineStreamEntry) (detail : OrderDetail) :
    OrderDetail :=
  { detail with events := appendEntry entry detail.events }

end OrderToCash.Web
