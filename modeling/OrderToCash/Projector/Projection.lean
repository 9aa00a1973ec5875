import OrderToCash.Causal.Order
import OrderToCash.Contracts.Facts
import OrderToCash.Orders.Status
import Mathlib.Data.String.Basic

/-!
# The projection of facts

`projectFact` describes what a fact does to the document of its order, and
`deltaToPipeline` turns the description into one update that the database
evaluates on the document before it.  The texts of a description stand in the
update unquoted, so the database evaluates them too: a text that begins with a
dollar sign is a path into the document.

Identifiers, instants and codes of an enumeration never are; of the remaining
texts, the summaries begin with a word or a number.
-/

namespace OrderToCash.Projector

open OrderToCash.Causal
open OrderToCash.Contracts
open OrderToCash.Kernel
open OrderToCash.Orders

/-! ## Ranks -/

/-- The status a fact proves has been reached, with its rank. -/
def rankTable : EventType → Option OrderStatus × Nat
  | .orderPlaced => (some .placed, 1)
  | .stockReserved => (some .stockReserved, 2)
  | .creditApproved => (some .creditApproved, 3)
  | .orderConfirmed => (some .confirmed, 4)
  | .orderDespatched => (some .despatched, 5)
  | .invoiceIssued => (some .invoiced, 6)
  | .paymentReceived => (some .paid, 7)
  | .orderCompleted => (some .completed, 98)
  | .orderCancelled => (some .cancelled, 99)
  | .stockRejected => (none, 0)
  | .stockReleased => (none, 0)
  | .creditRejected => (none, 0)
  | .creditReleased => (none, 0)
  | .orderSagaFailed => (none, 0)

def impliedStatusOf (eventType : EventType) : Option OrderStatus :=
  (rankTable eventType).1

def rankOf (eventType : EventType) : Nat :=
  (rankTable eventType).2

/-- Facts of one positive rank prove one status. -/
theorem impliedStatusOf_eq_of_rankOf_eq {first second : EventType}
    (same : rankOf first = rankOf second) :
    impliedStatusOf first = impliedStatusOf second := by
  revert same
  cases first <;> cases second <;> decide

/-! ## Documents -/

/-- The sentence a timeline entry carries: its template and what the template
renders. -/
inductive Summary
  | orderPlaced (orderReference : OrderNumber) (retailerCode : String)
  | stockReserved (lines : Nat)
  | stockRejected (totalShort : Int) (firstProduct : Option String)
  | stockReleased (units : Nat) (compensation : Bool)
  | creditApproved (heldAmount : Int) (currency : CurrencyCode)
  | creditRejected (requestedAmount : Int) (currency : CurrencyCode)
      (reason : CreditRejectionReason)
  | creditReleased (invoicePaid : Bool)
  | orderConfirmed
  | orderDespatched (despatchReference : Nat)
  | invoiceIssued (invoiceReference : Nat)
  | paymentReceived (paymentReference : String)
  | orderCompleted (orderReference : OrderNumber)
  | orderCancelled (orderReference : OrderNumber)
      (cancellationReason : CancellationReason)
  | orderSagaFailed (command : String) (attempts : Nat)
deriving DecidableEq, Repr

inductive EntryDetail
  | stockRejected (shortages : List Shortage) (reason : StockRejectionReason)
  | stockReleased (released : List ReservationRef) (reason : StockReleaseReason)
  | creditRejected (reason : CreditRejectionReason) (requestedAmount : Int)
  | orderCancelled (cancellationReason : CancellationReason)
      (compensationSteps : List CompensationStep)
  | orderSagaFailed (command : String) (attempts : Nat) (lastError : String)
deriving DecidableEq, Repr

/-- An entry of a document's `events`.  Seeded entries may lack a cause, and an
earlier version of the projector stored a rank with each. -/
structure TimelineEntry where
  eventId : String
  eventType : EventType
  occurredAt : String
  summary : Summary
  causationId : Option String
  detail : Option EntryDetail
  statusRank : Option Nat
deriving DecidableEq, Repr

structure OrderParty where
  code : Option String
  name : Option String
  gln : Option String
deriving DecidableEq, Repr

structure OrderTotals where
  initialAmount : Option Int
  initialDiscount : Option Int
  totalAmount : Option Int
deriving DecidableEq, Repr

structure OrderItem where
  productCode : String
  name : Option String
  quantity : Quantity
  unitPrice : Int
  lineDiscount : Int
deriving DecidableEq, Repr

structure OrderReferences where
  despatchReference : Option Nat
  invoiceReference : Option Nat
  paymentReference : Option String
deriving DecidableEq, Repr

/-- A document of the read model. -/
structure OrderTimelineDocument where
  orderId : OrderNumber
  orderReference : Option OrderNumber
  orderDate : Option String
  retailer : OrderParty
  company : OrderParty
  status : OrderStatus
  cancellationReason : Option CancellationReason
  currency : Option String
  totals : OrderTotals
  items : List OrderItem
  references : OrderReferences
  events : List TimelineEntry
  headerComplete : Bool
  updatedAt : String
  statusRank : Nat
  processedEventKeys : List String
  timelineOrderVersion : Option Nat
deriving DecidableEq, Repr

def timelineOrderVersion : Nat := 2

/-- The document inserted for an order's first fact. -/
def placeholderSkeleton (orderId : OrderNumber) (seedOccurredAt : String) :
    OrderTimelineDocument :=
  { orderId := orderId
    orderReference := none
    orderDate := none
    retailer := ⟨none, none, none⟩
    company := ⟨none, none, none⟩
    status := .placed
    cancellationReason := none
    currency := none
    totals := ⟨none, none, none⟩
    items := []
    references := ⟨none, none, none⟩
    events := []
    headerComplete := false
    updatedAt := seedOccurredAt
    statusRank := 0
    processedEventKeys := []
    timelineOrderVersion := some timelineOrderVersion }

/-! ## The order of a timeline -/

def timelineKeys : Keys TimelineEntry String String :=
  { eventId := TimelineEntry.eventId
    causationId := TimelineEntry.causationId
    occurredAt := TimelineEntry.occurredAt }

/-- Drops the key that an earlier version stored. -/
def TimelineEntry.withoutRank (entry : TimelineEntry) : TimelineEntry :=
  { entry with statusRank := none }

def causalTimelineOrder (appended : List TimelineEntry) : List TimelineEntry :=
  (timelineKeys.causalOrder appended).map TimelineEntry.withoutRank

/-! ## Descriptions of a change -/

structure OrderHeaderDelta where
  orderReference : OrderNumber
  orderDate : String
  retailerCode : String
  retailerGln : String
  companyCode : String
  companyGln : String
  currency : String
  initialAmount : Int
  initialDiscount : Int
  totalAmount : Int
  items : List OrderItem
deriving DecidableEq, Repr

/-- Written only while the field is absent. -/
structure FillIfAbsent where
  cancellationReason : Option CancellationReason
  references : OrderReferences
deriving DecidableEq, Repr

structure ProjectionDelta where
  orderId : OrderNumber
  entry : TimelineEntry
  impliedStatus : Option OrderStatus
  statusRank : Nat
  fillIfAbsent : FillIfAbsent
  header : Option OrderHeaderDelta
deriving DecidableEq, Repr

/-- What `order.placed.v1` says besides what the other services read of it. -/
structure PlacementDetails where
  orderDate : String
  buyerGln : String
  supplierGln : String
deriving DecidableEq, Repr

/-- A fact as the projector reads it; the details are those of an
`order.placed.v1`. -/
structure FactEnvelope where
  eventId : String
  causationId : String
  occurredAt : String
  fact : Fact
  placement : PlacementDetails
deriving DecidableEq, Repr

def FactEnvelope.eventType (envelope : FactEnvelope) : EventType :=
  envelope.fact.eventType

def FactEnvelope.correlationId (envelope : FactEnvelope) : OrderNumber :=
  envelope.fact.orderReference

/-- The sentence and the detail of a fact's entry.  A `stock.rejected.v1` names at
least one shortage. -/
def summaryOf : Fact → Summary × Option EntryDetail
  | .orderPlaced payload =>
      (.orderPlaced payload.orderReference payload.retailerCode, none)
  | .stockReserved payload => (.stockReserved payload.reservations.length, none)
  | .stockRejected payload =>
      (.stockRejected
          (payload.shortages.map fun shortage =>
            (shortage.requested.value : Int) - shortage.available).sum
          (payload.shortages.head?.map Shortage.productCode),
        some (.stockRejected payload.shortages payload.reason))
  | .stockReleased payload =>
      (.stockReleased
          (payload.released.map fun reservation => reservation.units.value).sum
          (payload.reason = .creditRejected),
        some (.stockReleased payload.released payload.reason))
  | .creditApproved payload =>
      (.creditApproved payload.heldAmount payload.currency, none)
  | .creditRejected payload =>
      (.creditRejected payload.requestedAmount payload.currency payload.reason,
        some (.creditRejected payload.reason payload.requestedAmount))
  | .creditReleased payload =>
      (.creditReleased (payload.reason = .invoicePaid), none)
  | .orderConfirmed _ => (.orderConfirmed, none)
  | .orderDespatched payload => (.orderDespatched payload.despatchReference, none)
  | .invoiceIssued payload => (.invoiceIssued payload.invoiceReference, none)
  | .paymentReceived payload => (.paymentReceived payload.paymentReference, none)
  | .orderCompleted payload => (.orderCompleted payload.orderReference, none)
  | .orderCancelled payload =>
      (.orderCancelled payload.orderReference payload.cancellationReason,
        some (.orderCancelled payload.cancellationReason payload.compensationSteps))
  | .orderSagaFailed payload =>
      (.orderSagaFailed payload.command payload.attempts,
        some (.orderSagaFailed payload.command payload.attempts payload.lastError))

def entryOf (envelope : FactEnvelope) : TimelineEntry :=
  { eventId := envelope.eventId
    eventType := envelope.eventType
    occurredAt := envelope.occurredAt
    summary := (summaryOf envelope.fact).1
    causationId := some envelope.causationId
    detail := (summaryOf envelope.fact).2
    statusRank := none }

def noReferences : OrderReferences := ⟨none, none, none⟩

/-- The fields a fact writes while they are absent. -/
def fillOf : Fact → FillIfAbsent
  | .orderDespatched payload =>
      ⟨none, { noReferences with despatchReference := some payload.despatchReference }⟩
  | .invoiceIssued payload =>
      ⟨none, { noReferences with invoiceReference := some payload.invoiceReference }⟩
  | .paymentReceived payload =>
      ⟨none, { noReferences with paymentReference := some payload.paymentReference }⟩
  | .orderCancelled payload => ⟨some payload.cancellationReason, noReferences⟩
  | _ => ⟨none, noReferences⟩

/-- The header, which `order.placed.v1` alone carries. -/
def headerOf (envelope : FactEnvelope) : Option OrderHeaderDelta :=
  match envelope.fact with
  | .orderPlaced payload =>
      some
        { orderReference := payload.orderReference
          orderDate := envelope.placement.orderDate
          retailerCode := payload.retailerCode
          retailerGln := envelope.placement.buyerGln
          companyCode := payload.companyCode
          companyGln := envelope.placement.supplierGln
          currency := payload.currency
          initialAmount := payload.initialAmount
          initialDiscount := payload.initialDiscount
          totalAmount := payload.totalAmount
          items :=
            payload.lines.map fun line =>
              { productCode := line.productCode
                name := none
                quantity := line.quantity
                unitPrice := line.unitPrice
                lineDiscount := line.lineDiscount } }
  | _ => none

def projectFact (envelope : FactEnvelope) : ProjectionDelta :=
  { orderId := envelope.correlationId
    entry := entryOf envelope
    impliedStatus := impliedStatusOf envelope.eventType
    statusRank := rankOf envelope.eventType
    fillIfAbsent := fillOf envelope.fact
    header := headerOf envelope }

/-! ## Texts of an update -/

namespace EntryDetail

def mapTexts (f : String → String) : EntryDetail → EntryDetail
  | .stockRejected shortages reason =>
      .stockRejected
        (shortages.map fun shortage =>
          { shortage with productCode := f shortage.productCode })
        reason
  | .stockReleased released reason =>
      .stockReleased
        (released.map fun reservation =>
          { reservation with productCode := f reservation.productCode })
        reason
  | .creditRejected reason requestedAmount => .creditRejected reason requestedAmount
  | .orderCancelled cancellationReason compensationSteps =>
      .orderCancelled cancellationReason
        (compensationSteps.map fun step => { step with summary := f step.summary })
  | .orderSagaFailed command attempts lastError =>
      .orderSagaFailed (f command) attempts (f lastError)

def texts : EntryDetail → List String
  | .stockRejected shortages _ => shortages.map Shortage.productCode
  | .stockReleased released _ => released.map ReservationRef.productCode
  | .creditRejected _ _ => []
  | .orderCancelled _ compensationSteps =>
      compensationSteps.map CompensationStep.summary
  | .orderSagaFailed command _ lastError => [command, lastError]

end EntryDetail

namespace OrderHeaderDelta

def mapTexts (f : String → String) (header : OrderHeaderDelta) : OrderHeaderDelta :=
  { header with
    orderDate := f header.orderDate
    retailerCode := f header.retailerCode
    retailerGln := f header.retailerGln
    companyCode := f header.companyCode
    companyGln := f header.companyGln
    currency := f header.currency
    items :=
      header.items.map fun item => { item with productCode := f item.productCode } }

def texts (header : OrderHeaderDelta) : List String :=
  [header.orderDate, header.retailerCode, header.retailerGln, header.companyCode,
    header.companyGln, header.currency] ++ header.items.map OrderItem.productCode

end OrderHeaderDelta

namespace ProjectionDelta

def mapTexts (f : String → String) (delta : ProjectionDelta) : ProjectionDelta :=
  { delta with
    entry :=
      { delta.entry with detail := delta.entry.detail.map (EntryDetail.mapTexts f) }
    fillIfAbsent :=
      { delta.fillIfAbsent with
        references :=
          { delta.fillIfAbsent.references with
            paymentReference := delta.fillIfAbsent.references.paymentReference.map f } }
    header := delta.header.map (OrderHeaderDelta.mapTexts f) }

/-- The texts that a description takes from the payload of its fact. -/
def texts (delta : ProjectionDelta) : List String :=
  (delta.entry.detail.map EntryDetail.texts).getD [] ++
    delta.fillIfAbsent.references.paymentReference.toList ++
    (delta.header.map OrderHeaderDelta.texts).getD []

end ProjectionDelta

/-- A text that the database does not take for a path. -/
def Plain (text : String) : Prop :=
  text.toList.head? ≠ some '$'

instance (text : String) : Decidable (Plain text) :=
  inferInstanceAs (Decidable (_ ≠ _))

/-! ## The update -/

/-- `$setUnion` with one key, sorted. -/
def unionKey (keys : List String) (dedupKey : String) : List String :=
  ((keys ++ [dedupKey]).dedup).insertionSort (· ≤ ·)

/-- The status after a fact: the one it proves, where its rank is above the
document's. -/
def raise (status : OrderStatus) (rank : Nat) (impliedStatus : Option OrderStatus)
    (statusRank : Nat) : OrderStatus :=
  match impliedStatus with
  | some impliedStatus => if rank < statusRank then impliedStatus else status
  | none => status

def OrderHeaderDelta.write (header : OrderHeaderDelta)
    (document : OrderTimelineDocument) : OrderTimelineDocument :=
  { document with
    orderReference := some header.orderReference
    orderDate := some header.orderDate
    retailer :=
      { document.retailer with
        code := some header.retailerCode
        gln := some header.retailerGln }
    company :=
      { document.company with
        code := some header.companyCode
        gln := some header.companyGln }
    currency := some header.currency
    totals :=
      { initialAmount := some header.initialAmount
        initialDiscount := some header.initialDiscount
        totalAmount := some header.totalAmount }
    items := header.items
    headerComplete := true }

/-- What every description writes. -/
def bodyStage (delta : ProjectionDelta) (dedupKey : String)
    (document : OrderTimelineDocument) : OrderTimelineDocument :=
  { document with
    processedEventKeys := unionKey document.processedEventKeys dedupKey
    events := causalTimelineOrder (document.events ++ [delta.entry])
    timelineOrderVersion := some timelineOrderVersion
    statusRank := max document.statusRank delta.statusRank
    status :=
      raise document.status document.statusRank delta.impliedStatus delta.statusRank
    updatedAt := max document.updatedAt delta.entry.occurredAt
    references :=
      { despatchReference :=
          document.references.despatchReference.or
            delta.fillIfAbsent.references.despatchReference
        invoiceReference :=
          document.references.invoiceReference.or
            delta.fillIfAbsent.references.invoiceReference
        paymentReference :=
          document.references.paymentReference.or
            delta.fillIfAbsent.references.paymentReference }
    cancellationReason :=
      document.cancellationReason.or delta.fillIfAbsent.cancellationReason }

/-- The stage of a description whose texts have been evaluated. -/
def setStage (delta : ProjectionDelta) (dedupKey : String)
    (document : OrderTimelineDocument) : OrderTimelineDocument :=
  match delta.header with
  | some header => header.write (bodyStage delta dedupKey document)
  | none => bodyStage delta dedupKey document

/-- What the database makes of a text in an update of a document. -/
abbrev Evaluation := OrderTimelineDocument → String → String

/-- A text that is no path stands for itself. -/
def Evaluation.KeepsPlain (evaluate : Evaluation) : Prop :=
  ∀ (document : OrderTimelineDocument) (text : String),
    Plain text → evaluate document text = text

/-- The update, with its texts evaluated on the document before it. -/
def deltaToPipeline (evaluate : Evaluation) (delta : ProjectionDelta)
    (dedupKey : String) (document : OrderTimelineDocument) : OrderTimelineDocument :=
  setStage (delta.mapTexts (evaluate document)) dedupKey document

end OrderToCash.Projector
