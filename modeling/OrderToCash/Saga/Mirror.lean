import OrderToCash.Billing.Announced
import OrderToCash.Fulfillment.Announced
import OrderToCash.Projector.FinalDocument
import OrderToCash.Saga.KeptTerms
import OrderToCash.Saga.NeededFacts
import OrderToCash.Saga.ReadModel
import OrderToCash.Saga.StrandedStock

/-!
# The read model mirrors the services

Beside its status, a document shows the terms of its order, the references that
the other services gave it and the timeline.  Each service is told of by its
facts as its tables have it, and each kind of fact that carries such a field is
published once for an order.  Once the projector has consumed what was published,
the document therefore says what the tables of the three services say.  The codes
of the parties and the order of the items it has from the placement, where the
tables of Orders may spell the codes otherwise and return the items in another
order.
-/

namespace OrderToCash.Saga

open OrderToCash.Billing
open OrderToCash.Contracts
open OrderToCash.Fulfillment
open OrderToCash.Kernel
open OrderToCash.Log
open OrderToCash.Orders
open OrderToCash.Projector
open OrderToCash.Transition

variable {order : OrderNumber} {system : SagaSystem} {saga : OrderSaga}

/-! ## Facts that are published once -/

/-- A fact of the saga is in the outbox of its topic. -/
theorem Represents.topic_of_mem (represents : Represents order system saga)
    {topic : Topic} {fact : Fact} {sagaFact : SagaFact}
    (inTopic : fact ∈ system.outbox topic) (ofOrder : fact.orderReference = order)
    (isFact : sagaFact? fact = some sagaFact) : sagaFact.topic = topic := by
  rcases List.getElem?_of_mem inTopic with ⟨position, found⟩
  exact (represents.orders.delivery topic).owned sagaFact position
    ⟨fact, found, read_eq_some.mpr ⟨ofOrder, isFact⟩⟩

/-- The fact is such a one to the saga. -/
def IsFact (sagaFact : SagaFact) (fact : Fact) : Prop := sagaFact? fact = some sagaFact

/-- A kind of fact that cannot be repeated is published once for an order. -/
theorem Represents.pairwise_once (represents : Represents order system saga)
    {sagaFact : SagaFact} (once : ¬ Repeatable sagaFact) :
    (system.factsOf order).Pairwise (NotBoth (IsFact sagaFact)) := by
  have inTopic : ∀ topic, ((system.outbox topic).filter fun fact =>
      fact.orderReference = order).Pairwise (NotBoth (IsFact sagaFact)) := by
    intro topic
    have apart := (represents.orders.delivery topic).pairwise_once once
    apply List.Pairwise.imp_of_mem _ (apart.filter _)
    intro first second firstMem secondMem differ
    have ofFirst := of_decide_eq_true (List.mem_filter.mp firstMem).2
    have ofSecond := of_decide_eq_true (List.mem_filter.mp secondMem).2
    rintro ⟨isFirst, isSecond⟩
    exact differ ⟨read_eq_some.mpr ⟨ofFirst, isFirst⟩, read_eq_some.mpr ⟨ofSecond, isSecond⟩⟩
  have across : ∀ {topic topic' : Topic}, topic ≠ topic' →
      ∀ first ∈ (system.outbox topic).filter fun fact => fact.orderReference = order,
      ∀ second ∈ (system.outbox topic').filter fun fact => fact.orderReference = order,
        NotBoth (IsFact sagaFact) first second := by
    intro topic topic' differ first firstMem second secondMem
    rcases List.mem_filter.mp firstMem with ⟨inFirst, ofFirst⟩
    rcases List.mem_filter.mp secondMem with ⟨inSecond, ofSecond⟩
    rintro ⟨isFirst, isSecond⟩
    apply differ
    rw [← represents.topic_of_mem inFirst (of_decide_eq_true ofFirst) isFirst,
      represents.topic_of_mem inSecond (of_decide_eq_true ofSecond) isSecond]
  unfold SagaSystem.factsOf
  rw [List.filter_append, List.filter_append, List.pairwise_append, List.pairwise_append]
  refine ⟨⟨inTopic .orders, inTopic .fulfillment, across (by decide)⟩,
    inTopic .billing, ?_⟩
  intro first firstMem
  rcases List.mem_append.mp firstMem with ofOrders | ofFulfillment
  · exact across (by decide) first ofOrders
  · exact across (by decide) first ofFulfillment

/-- Of what was published for an order, one is such a fact. -/
theorem Represents.envelope_unique (represents : Represents order system saga)
    {sagaFact : SagaFact} (once : ¬ Repeatable sagaFact) {facts : List FactEnvelope}
    (published : (facts.map FactEnvelope.fact).Perm (system.factsOf order))
    {first second : FactEnvelope} (firstMem : first ∈ facts) (secondMem : second ∈ facts)
    (isFirst : IsFact sagaFact first.fact) (isSecond : IsFact sagaFact second.fact) :
    first = second := by
  have apart := (published.pairwise_iff fun differ => Std.Symm.symm _ _ differ).mpr
    (represents.pairwise_once once)
  rw [List.pairwise_map] at apart
  exact @eq_of_pairwise_notBoth _ (fun envelope => IsFact sagaFact envelope.fact) _ apart
    _ _ firstMem secondMem isFirst isSecond

/-- A part that only such a fact has, the facts agree on. -/
theorem Represents.agree (represents : Represents order system saga)
    {sagaFact : SagaFact} (once : ¬ Repeatable sagaFact) {facts : List FactEnvelope}
    (published : (facts.map FactEnvelope.fact).Perm (system.factsOf order))
    {β : Type} {part : FactEnvelope → Option β}
    (carried : ∀ envelope value, part envelope = some value →
      IsFact sagaFact envelope.fact) : Agree part facts := by
  intro first firstMem second secondMem one other isOne isOther
  have same := represents.envelope_unique once published firstMem secondMem
    (carried first one isOne) (carried second other isOther)
  rw [same, isOther, Option.some.injEq] at isOne
  exact isOne.symm

/-- An order is placed once. -/
theorem Represents.placement_unique (represents : Represents order system saga)
    {placed : OrderPlacedPayload} (placedMem : .orderPlaced placed ∈ system.factsOf order)
    (payload : OrderPlacedPayload) :
    .orderPlaced payload ∈ system.factsOf order ↔ payload = placed := by
  have once := represents.pairwise_once (by simp [Repeatable] : ¬ Repeatable .orderPlaced)
  constructor
  · intro payloadMem
    have same := eq_of_pairwise_notBoth once payloadMem placedMem rfl rfl
    cases same
    rfl
  · rintro rfl
    exact placedMem

/-! ## What the services announce -/

/-- Fulfillment and Billing announce what their tables say. -/
structure SagaSystem.Announced (system : SagaSystem) : Prop where
  soundStock : system.fulfillment.db.Sound
  stock : system.fulfillment.db.Announced
  soundCredit : system.billing.db.Sound
  credit : system.billing.db.Announced

theorem announced_of_reachable {guard : Guard SagaSystem SagaAction}
    {stock : StockCatalogue} {credits : CreditCatalogue}
    (reached : Reachable SagaSystem.step guard (SagaSystem.initial stock credits) system) :
    system.Announced := by
  induction reached with
  | refl =>
      exact
        { soundStock := FulfillmentSystem.sound_initial stock
          stock := FulfillmentSystem.announced_initial stock
          soundCredit := BillingSystem.sound_initial credits
          credit := BillingSystem.announced_initial credits }
  | tail path admitted stepped inductionHypothesis =>
      rename_i before after action
      rcases SagaSystem.step_eq_some.mp stepped with ⟨_, acted⟩
      cases action with
      | orders action =>
          simp only [SagaSystem.act, Option.map_eq_some_iff] at acted
          rcases acted with ⟨orders, _, rfl⟩
          exact
            { soundStock := inductionHypothesis.soundStock
              stock := inductionHypothesis.stock
              soundCredit := inductionHypothesis.soundCredit
              credit := inductionHypothesis.credit }
      | fulfillment action =>
          simp only [SagaSystem.act, Option.map_eq_some_iff] at acted
          rcases acted with ⟨fulfillment, serviceStepped, rfl⟩
          exact
            { soundStock := FulfillmentSystem.sound_step inductionHypothesis.soundStock
                serviceStepped
              stock := FulfillmentSystem.announced_step inductionHypothesis.stock
                inductionHypothesis.soundStock serviceStepped
              soundCredit := inductionHypothesis.soundCredit
              credit := inductionHypothesis.credit }
      | billing action =>
          simp only [SagaSystem.act, Option.map_eq_some_iff] at acted
          rcases acted with ⟨billing, serviceStepped, rfl⟩
          exact
            { soundStock := inductionHypothesis.soundStock
              stock := inductionHypothesis.stock
              soundCredit := BillingSystem.sound_step inductionHypothesis.soundCredit
                serviceStepped
              credit := BillingSystem.announced_step inductionHypothesis.credit
                serviceStepped }

/-- The fact tells of an order as it was placed, and the terms are those of one of
its stored forms. -/
def TellsTerms (fact : Fact) (terms : OrderProps) : Prop :=
  ∃ (placed : OrderProps) (form : StoredForm), fact = orderPlacedEvent placed ∧
    form.Fits placed ∧ termsOf terms = termsOf (form.row placed)

/-- A step that brings an order about stores it in a form and announces it as it was
placed. -/
theorem placed_of_step {orders orders' : OrdersSystem} {action : OrdersAction}
    (stepped : OrdersSystem.step orders action = some orders')
    (unplaced : orders.db.orders order = none) {row : OrderProps}
    (stored : orders'.db.orders order = some row) :
    ∃ (placed : OrderProps) (form : StoredForm), form.Fits placed ∧
      form.row placed = row ∧
      orders'.db.outbox = orders.db.outbox ++ [orderPlacedEvent placed] := by
  rcases OrdersSystem.step_orders stepped with
    ⟨firstLineId, input, form, created, rfl, _, isPlaced, fits, rfl⟩ |
      ⟨index, _, rfl, _⟩ | ⟨unchanged, _⟩
  · rcases Order.place_eq_ok isPlaced with ⟨_, _, _, _, _, _, _, events⟩
    have isRow : form.row created.props = row := by
      change Function.update orders.db.orders created.props.orderReference _ order = _
        at stored
      by_cases reference : created.props.orderReference = order
      · rw [reference, Function.update_self] at stored
        exact Option.some.inj stored
      · rw [Function.update_of_ne (Ne.symm reference), unplaced] at stored
        cases stored
    exact ⟨created.props, form, fits, isRow, congrArg (_ ++ ·) events⟩
  · rcases OrdersSystem.commit_writes stepped with
      ⟨_, writes, middle, _, _, sameRows, _, applied, _⟩
    rw [← sameRows] at unplaced
    rw [applied, OrdersDb.orders_none_of_writes unplaced] at stored
    cases stored
  · rw [unchanged, unplaced] at stored
    cases stored

/-- The placement of an order tells of the terms in its row: the step that places it
announces what it stores, and neither the announcement nor the terms change after
it. -/
theorem placement_tells {guard : Guard SagaSystem SagaAction} {stock : StockCatalogue}
    {credits : CreditCatalogue}
    (reached : Reachable SagaSystem.step guard (SagaSystem.initial stock credits) system)
    {row : OrderProps} (stored : system.orders.db.orders order = some row) {fact : Fact}
    (factMem : fact ∈ system.factsOf order)
    (isPlacement : sagaFact? fact = some .orderPlaced) : TellsTerms fact row := by
  induction reached generalizing row fact with
  | refl => cases stored
  | tail path admitted stepped inductionHypothesis =>
      rename_i before after action
      rcases exists_represented order path with ⟨saga, represents⟩
      rcases exists_represented order (path.tail admitted stepped) with
        ⟨saga', represents'⟩
      rcases SagaSystem.mem_factsOf.mp factMem with ⟨⟨topic, inTopic⟩, ofOrder⟩
      cases represents'.topic_of_mem inTopic ofOrder isPlacement
      rcases serviceStep_orders stepped with same | ⟨ordersAction, rfl, ordersStepped⟩
      · rw [same] at stored
        apply inductionHypothesis stored _ isPlacement
        apply SagaSystem.mem_factsOf.mpr ⟨⟨.orders, _⟩, ofOrder⟩
        change fact ∈ after.orders.db.outbox at inTopic
        rw [same] at inTopic
        exact inTopic
      · cases earlier : before.orders.db.orders order with
        | none =>
            rcases placed_of_step ordersStepped earlier stored with
              ⟨placed, form, fits, isRow, grown⟩
            change fact ∈ after.orders.db.outbox at inTopic
            rw [grown] at inTopic
            rcases List.mem_append.mp inTopic with old | new
            · have emitted := represents.emitted_of_mem
                (SagaSystem.mem_factsOf.mpr ⟨⟨.orders, old⟩, ofOrder⟩) isPlacement
              have placed := represents.coherent.emissions.placed.mp emitted
              rw [represents.status_eq, OrdersDb.statusOf, earlier] at placed
              exact absurd rfl placed
            · rw [← isRow]
              exact ⟨placed, form, List.mem_singleton.mp new, fits, rfl⟩
        | some earlierRow =>
            have placed : before.orders.db.orders order ≠ none := by
              rw [earlier]
              exact Option.some_ne_none earlierRow
            rcases exists_terms path placed with ⟨terms, keeps⟩
            have keeps' := keeps.step ordersStepped represents.orders.underWay.keyed placed
            have sameTerms : termsOf row = termsOf earlierRow :=
              (keeps'.row row stored).trans (keeps.row earlierRow earlier).symm
            have emitted : saga.emitted .orderPlaced := by
              apply represents.coherent.emissions.placed.mpr
              rw [represents.status_eq, OrdersDb.statusOf, earlier]
              exact Option.some_ne_none _
            rcases represents.mem_of_emitted emitted with ⟨first, firstMem, isFirst⟩
            rcases SagaSystem.mem_factsOf.mp firstMem with ⟨⟨topic, inFirst⟩, ofFirst⟩
            cases represents.topic_of_mem inFirst ofFirst isFirst
            have kept : first ∈ after.orders.db.outbox := by
              rcases (OrdersSystem.added ordersStepped).2 with ⟨new, grown⟩
              rw [grown]
              exact List.mem_append_left new inFirst
            have isFact : first = fact := by
              apply eq_of_pairwise_notBoth (represents'.pairwise_once (by simp [Repeatable]))
                _ factMem isFirst isPlacement
              exact SagaSystem.mem_factsOf.mpr ⟨⟨.orders, kept⟩, ofFirst⟩
            subst isFact
            rcases inductionHypothesis earlier firstMem isFirst with
              ⟨placed, form, tells, fits, terms⟩
            exact ⟨placed, form, tells, fits, sameTerms.trans terms⟩

/-- An order that is stored was placed once, and its placement tells of its terms. -/
theorem exists_placement {guard : Guard SagaSystem SagaAction} {stock : StockCatalogue}
    {credits : CreditCatalogue} (represents : Represents order system saga)
    (reached : Reachable SagaSystem.step guard (SagaSystem.initial stock credits) system)
    {row : OrderProps} (stored : system.orders.db.orders order = some row) :
    row.orderReference = order ∧ ∃ fact ∈ system.factsOf order, TellsTerms fact row := by
  have placed : system.orders.db.orders order ≠ none := by
    rw [stored]
    exact Option.some_ne_none row
  rcases exists_terms reached placed with ⟨terms, keeps⟩
  cases keeps.row row stored
  have emitted : saga.emitted .orderPlaced := by
    apply represents.coherent.emissions.placed.mpr
    rw [represents.status_eq, OrdersDb.statusOf, stored]
    exact Option.some_ne_none _
  rcases represents.mem_of_emitted emitted with ⟨fact, factMem, isPlacement⟩
  exact ⟨keeps.ofOrder, fact, factMem,
    placement_tells reached stored factMem isPlacement⟩

/-! ## Who carries what -/

theorem isFact_of_header {envelope : FactEnvelope} {header : OrderHeaderDelta}
    (carries : headerOf envelope = some header) : IsFact .orderPlaced envelope.fact := by
  unfold headerOf at carries
  cases isFact : envelope.fact <;> rw [isFact] at carries <;> cases carries
  rfl

theorem isFact_of_despatchReference {fact : Fact} {reference : Nat}
    (fills : (fillOf fact).references.despatchReference = some reference) :
    IsFact .orderDespatched fact := by
  cases fact <;> cases fills
  rfl

theorem isFact_of_invoiceReference {fact : Fact} {reference : Nat}
    (fills : (fillOf fact).references.invoiceReference = some reference) :
    IsFact .invoiceIssued fact := by
  cases fact <;> cases fills
  rfl

theorem isFact_of_paymentReference {fact : Fact} {reference : String}
    (fills : (fillOf fact).references.paymentReference = some reference) :
    IsFact .paymentReceived fact := by
  cases fact <;> cases fills
  rfl

/-! ## References and their rows -/

section References

variable (represents : Represents order system saga) (announced : system.Announced)
include represents announced

/-- The despatch references that are published are those of the advices. -/
theorem Represents.despatch_told_iff (reference : Nat) :
    (∃ fact ∈ system.factsOf order,
        (fillOf fact).references.despatchReference = some reference) ↔
      ∃ despatch ∈ system.fulfillment.db.despatches, despatch.orderReference = order ∧
        despatch.despatchReference = reference := by
  constructor
  · rintro ⟨fact, factMem, fills⟩
    rcases SagaSystem.mem_factsOf.mp factMem with ⟨⟨topic, inTopic⟩, ofOrder⟩
    cases fact <;> cases fills
    cases represents.topic_of_mem inTopic ofOrder rfl
    rcases announced.stock.despatches.exists_row inTopic rfl with ⟨row, rowMem, rfl⟩
    exact ⟨row, rowMem, ofOrder, rfl⟩
  · rintro ⟨despatch, despatchMem, ofOrder, rfl⟩
    rcases announced.stock.despatches.exists_entry despatchMem with
      ⟨fact, inTopic, _, reads, rfl⟩
    cases fact <;> cases reads
    exact ⟨_, SagaSystem.mem_factsOf.mpr ⟨⟨.fulfillment, inTopic⟩, ofOrder⟩, rfl⟩

/-- The invoice references that are published are those of the invoices. -/
theorem Represents.invoice_told_iff (reference : Nat) :
    (∃ fact ∈ system.factsOf order,
        (fillOf fact).references.invoiceReference = some reference) ↔
      ∃ invoice ∈ system.billing.db.invoicesOf order,
        invoice.invoiceReference = reference := by
  constructor
  · rintro ⟨fact, factMem, fills⟩
    rcases SagaSystem.mem_factsOf.mp factMem with ⟨⟨topic, inTopic⟩, ofOrder⟩
    cases fact <;> cases fills
    cases represents.topic_of_mem inTopic ofOrder rfl
    rcases announced.credit.invoices.exists_row inTopic rfl with ⟨row, rowMem, rfl⟩
    exact ⟨row, List.mem_filter.mpr ⟨rowMem, decide_eq_true ofOrder⟩, rfl⟩
  · rintro ⟨invoice, listed, rfl⟩
    rcases List.mem_filter.mp listed with ⟨invoiceMem, ofOrder⟩
    rcases announced.credit.invoices.exists_entry invoiceMem with
      ⟨fact, inTopic, _, reads, rfl⟩
    cases fact <;> cases reads
    exact ⟨_, SagaSystem.mem_factsOf.mpr
      ⟨⟨.billing, inTopic⟩, of_decide_eq_true ofOrder⟩, rfl⟩

/-- The payment references that are published are those of the payments. -/
theorem Represents.payment_told_iff (reference : String) :
    (∃ fact ∈ system.factsOf order,
        (fillOf fact).references.paymentReference = some reference) ↔
      ∃ payment ∈ system.billing.db.paymentsOf order,
        payment.paymentReference.text = reference := by
  constructor
  · rintro ⟨fact, factMem, fills⟩
    rcases SagaSystem.mem_factsOf.mp factMem with ⟨⟨topic, inTopic⟩, ofOrder⟩
    cases fact <;> cases fills
    cases represents.topic_of_mem inTopic ofOrder rfl
    rcases announced.credit.payments.exists_row inTopic rfl with
      ⟨row, rowMem, invoice, invoiceMem, isInvoice, rfl, _⟩
    refine ⟨row, List.mem_filter.mpr ⟨rowMem, ?_⟩, rfl⟩
    apply List.any_eq_true.mpr
    exact ⟨invoice, List.mem_filter.mpr ⟨invoiceMem, decide_eq_true ofOrder⟩,
      decide_eq_true isInvoice⟩
  · rintro ⟨payment, listed, rfl⟩
    rcases List.mem_filter.mp listed with ⟨paymentMem, pays⟩
    rcases List.any_eq_true.mp pays with ⟨invoice, invoiceListed, isInvoice⟩
    rcases List.mem_filter.mp invoiceListed with ⟨invoiceMem, ofOrder⟩
    rcases announced.credit.payments.exists_entry paymentMem with
      ⟨fact, inTopic, _, reads, other, otherMem, isOther, rfl, _⟩
    have same : other = invoice := by
      apply List.inj_on_of_nodup_map announced.soundCredit.invoiceIds otherMem invoiceMem
      exact isOther.trans (of_decide_eq_true isInvoice).symm
    subst same
    cases fact <;> cases reads
    exact ⟨_, SagaSystem.mem_factsOf.mpr
      ⟨⟨.billing, inTopic⟩, of_decide_eq_true ofOrder⟩, rfl⟩

end References

/-! ## The document -/

/-- What a timeline says of a fact. -/
def toldOf (fact : Fact) : EventType × Summary × Option EntryDetail :=
  (fact.eventType, summaryOf fact)

/-- The item a document shows of a line. -/
def itemOf (line : OrderLine) : OrderItem :=
  { productCode := line.productCode
    name := none
    quantity := line.quantity
    unitPrice := line.unitPrice.amount
    lineDiscount := line.lineDiscount.amount }

/-- The item a document shows of a placed line. -/
def itemOfPayload (line : OrderLinePayload) : OrderItem :=
  { productCode := line.productCode
    name := none
    quantity := line.quantity
    unitPrice := line.unitPrice
    lineDiscount := line.lineDiscount }

/-- The document shows an order as the tables of the services have it, its parties
and the order of its items as it was placed, and tells of all they published. -/
structure Mirrors (system : SagaSystem) (props : OrderProps)
    (placed : OrderPlacedPayload) (document : OrderTimelineDocument) : Prop where
  orderId : document.orderId = props.orderReference
  orderReference : document.orderReference = some props.orderReference
  retailer : document.retailer.code = some placed.retailerCode
  company : document.company.code = some placed.companyCode
  currency : document.currency = some props.currency
  totals : document.totals = ⟨some props.initialAmount.amount,
    some props.initialDiscount.amount, some props.totalAmount.amount⟩
  items : document.items = placed.lines.map itemOfPayload
  itemRows : document.items.Perm (props.lines.map itemOf)
  headerComplete : document.headerComplete = true
  despatch : ∀ reference, document.references.despatchReference = some reference ↔
    ∃ despatch ∈ system.fulfillment.db.despatches,
      despatch.orderReference = props.orderReference ∧
        despatch.despatchReference = reference
  invoice : ∀ reference, document.references.invoiceReference = some reference ↔
    ∃ invoice ∈ system.billing.db.invoicesOf props.orderReference,
      invoice.invoiceReference = reference
  payment : ∀ reference, document.references.paymentReference = some reference ↔
    ∃ payment ∈ system.billing.db.paymentsOf props.orderReference,
      payment.paymentReference.text = reference
  timeline : (document.events.map fun entry =>
      (entry.eventType, entry.summary, entry.detail)).Perm
    ((system.factsOf props.orderReference).map toldOf)

/-- What a part of the envelopes says, the same part of the facts says. -/
theorem exists_envelope_iff {facts : List FactEnvelope} {published : List Fact}
    (perm : (facts.map FactEnvelope.fact).Perm published) (such : Fact → Prop) :
    (∃ envelope ∈ facts, such envelope.fact) ↔ ∃ fact ∈ published, such fact := by
  simp only [← perm.mem_iff, List.mem_map, exists_exists_and_eq_and]

/-- The timeline of what was published tells of each fact as it is. -/
theorem timeline_tells {facts : List FactEnvelope} {published : List Fact}
    (perm : (facts.map FactEnvelope.fact).Perm published) :
    ((causalTimelineOrder (facts.map entryOf)).map fun entry =>
      (entry.eventType, entry.summary, entry.detail)).Perm (published.map toldOf) := by
  have ordered := (causalTimelineOrder_perm (facts.map entryOf)).map fun entry =>
    (entry.eventType, entry.summary, entry.detail)
  apply ordered.trans
  have told := perm.map toldOf
  simpa [List.map_map, Function.comp_def, toldOf, entryOf, TimelineEntry.withoutRank,
    FactEnvelope.eventType] using told

/-- Once the projector has consumed what was published for an order, its document
shows the order as Orders, Fulfillment and Billing have it and as its one placement
told of it, and its timeline is what was published, in causal order. -/
theorem document_mirrors_services {stock : StockCatalogue} {credits : CreditCatalogue}
    {row : OrderProps} {facts : List FactEnvelope} {evaluate : Evaluation}
    {projector : ProjectorSystem}
    (reached : Reachable SagaSystem.step unguarded (SagaSystem.initial stock credits)
      system)
    (stored : system.orders.db.orders order = some row)
    (published : (facts.map FactEnvelope.fact).Perm (system.factsOf order))
    (distinct : (facts.map FactEnvelope.eventId).Nodup)
    (keepsPlain : evaluate.KeepsPlain) (plain : ∀ envelope ∈ facts, envelope.Plain)
    (delivered : Reachable (ProjectorSystem.step evaluate)
      (ProjectorSystem.Delivers facts) ProjectorSystem.initial projector)
    (complete : ProjectorSystem.Complete facts projector) :
    ∃ document placed, projector.document = some document ∧
      (∀ payload, .orderPlaced payload ∈ system.factsOf order ↔ payload = placed) ∧
      Mirrors system row placed document ∧
      document.events = causalTimelineOrder (facts.map entryOf) := by
  rcases exists_represented order reached with ⟨saga, represents⟩
  rcases exists_placement represents reached stored with
    ⟨ofOrder, fact, factMem, placed, form, tells, fits, terms⟩
  rcases List.mem_map.mp (published.mem_iff.mpr factMem) with
    ⟨placement, placementMem, rfl⟩
  rcases ProjectorSystem.document_shows distinct keepsPlain plain delivered complete
    placementMem with ⟨document, isDocument, shows, seed, seedMem, isSeed⟩
  have announced := announced_of_reachable reached
  have written := shows.header
    (represents.agree (by simp [Repeatable]) published fun _ _ => isFact_of_header)
    placement placementMem
  rw [headerOf, tells] at written
  have written := written _ rfl
  rw [tells] at factMem
  rcases (⟨_, rfl⟩ : ∃ payload, orderPlacedEvent placed = .orderPlaced payload) with
    ⟨payload, isPayload⟩
  simp only [termsOf, StoredForm.row, OrderProps.mk.injEq] at terms
  rcases terms with ⟨reference, _, _, currency, lines, initialAmount, initialDiscount,
    totalAmount, _⟩
  refine ⟨document, payload, isDocument, ?_, ?_, shows.timeline⟩
  · rw [isPayload] at factMem
    exact represents.placement_unique factMem
  constructor
  · have ofSeed : seed.fact ∈ system.factsOf order :=
      published.mem_iff.mp (List.mem_map_of_mem seedMem)
    rw [isSeed, ofOrder]
    exact (SagaSystem.mem_factsOf.mp ofSeed).2
  · rw [← congrArg OrderTimelineDocument.orderReference written, reference]
    rfl
  · cases isPayload
    exact (congrArg (·.retailer.code) written).symm
  · cases isPayload
    exact (congrArg (·.company.code) written).symm
  · rw [← congrArg OrderTimelineDocument.currency written, currency]
    rfl
  · rw [← congrArg OrderTimelineDocument.totals written, initialAmount, initialDiscount,
      totalAmount]
    rfl
  · cases isPayload
    exact (congrArg OrderTimelineDocument.items written).symm
  · have items : document.items = placed.lines.map itemOf := by
      rw [← congrArg OrderTimelineDocument.items written]
      simp [OrderHeaderDelta.write, itemOf]
    rw [items, lines]
    exact (fits.lines.map itemOf).symm
  · exact (congrArg OrderTimelineDocument.headerComplete written).symm
  · intro reference
    rw [ofOrder, ← represents.despatch_told_iff announced,
      ← exists_envelope_iff published fun fact =>
        (fillOf fact).references.despatchReference = some reference]
    apply shows.filled filled_despatchReference
    exact represents.agree (by simp [Repeatable]) published
      fun _ _ => isFact_of_despatchReference
  · intro reference
    rw [ofOrder, ← represents.invoice_told_iff announced,
      ← exists_envelope_iff published fun fact =>
        (fillOf fact).references.invoiceReference = some reference]
    apply shows.filled filled_invoiceReference
    exact represents.agree (by simp [Repeatable]) published
      fun _ _ => isFact_of_invoiceReference
  · intro reference
    rw [ofOrder, ← represents.payment_told_iff announced,
      ← exists_envelope_iff published fun fact =>
        (fillOf fact).references.paymentReference = some reference]
    apply shows.filled filled_paymentReference
    exact represents.agree (by simp [Repeatable]) published
      fun _ _ => isFact_of_paymentReference
  · rw [shows.timeline, ofOrder]
    exact timeline_tells published

theorem document_of_completed_order :
    ∃ (system : SagaSystem) (projector : ProjectorSystem) (row : OrderProps)
        (placed : OrderPlacedPayload) (document : OrderTimelineDocument),
      Reachable SagaSystem.step unguarded
        (SagaSystem.initial FulfillmentSystem.twoProducts tenThousandLimit) system ∧
      system.orders.db.orders ⟨1⟩ = some row ∧ row.status = .completed ∧
      row.retailerCode = "RET-0001" ∧ document.retailer.code = some "ret-0001" ∧
      projector.document = some document ∧ Mirrors system row placed document ∧
        document.events =
          causalTimelineOrder ((envelopesOf (system.factsOf ⟨1⟩)).map entryOf) := by
  have ran : ((orderlyRun paidInTheEnd).any fun system =>
      (projectionOf system).any fun projector =>
        decide (ConsumedBy system projector) &&
          decide ((system.orders.db.orders ⟨1⟩).map (fun row =>
                (row.status, row.retailerCode)) = some (.completed, "RET-0001") ∧
            projector.document.map (·.retailer.code) = some (some "ret-0001") ∧
            ∀ envelope ∈ envelopesOf (system.factsOf ⟨1⟩), envelope.Plain)) = true := by
    decide +kernel
  rcases exists_consumed ran with ⟨system, projector, reached, delivered, consumed, shows⟩
  rcases of_decide_eq_true shows with ⟨isRow, shown, plain⟩
  rcases Option.map_eq_some_iff.mp isRow with ⟨row, stored, columns⟩
  rcases Prod.mk.inj columns with ⟨completed, spelled⟩
  have unguardedReached := reached.weaken fun _ _ _ => trivial
  rcases document_mirrors_services unguardedReached stored
    (by rw [map_fact_envelopesOf]) consumed.distinct (fun _ _ _ => rfl) plain delivered
    consumed.complete with ⟨document, placed, isDocument, _, mirrors, timeline⟩
  rw [isDocument] at shown
  exact ⟨system, projector, row, placed, document, unguardedReached, stored, completed,
    spelled, Option.some.inj shown, isDocument, mirrors, timeline⟩

end OrderToCash.Saga
