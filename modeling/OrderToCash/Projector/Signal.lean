import OrderToCash.Projector.Determinism

/-!
# The update signal

A fact that was applied is announced by two frames, built from the document after
the update: its last timeline entry stands for the fact.
-/

namespace OrderToCash.Projector

open OrderToCash.Causal
open OrderToCash.Contracts
open OrderToCash.Kernel
open OrderToCash.Orders
open OrderToCash.Transition

structure LatestEntry where
  eventId : String
  eventType : EventType
  occurredAt : String
  summary : Summary
  causationId : Option String
deriving DecidableEq, Repr

structure AppliedOrderTimeline where
  orderId : OrderNumber
  orderReference : Option OrderNumber
  status : OrderStatus
  cancellationReason : Option CancellationReason
  references : OrderReferences
  totals : OrderTotals
  latestEntry : LatestEntry
deriving DecidableEq, Repr

/-- `none` where the document has no entry, which throws. -/
def toAppliedOrderTimeline (document : OrderTimelineDocument) :
    Option AppliedOrderTimeline :=
  document.events.getLast?.map fun latest =>
    { orderId := document.orderId
      orderReference := document.orderReference
      status := document.status
      cancellationReason := document.cancellationReason
      references := document.references
      totals := document.totals
      latestEntry :=
        { eventId := latest.eventId
          eventType := latest.eventType
          occurredAt := latest.occurredAt
          summary := latest.summary
          causationId := latest.causationId } }

/-- The data of an `order.updated` frame. -/
structure OrderStreamUpdate where
  eventId : String
  orderId : OrderNumber
  orderReference : Option OrderNumber
  status : OrderStatus
  cancellationReason : Option CancellationReason
  references : OrderReferences
  totals : OrderTotals
  occurredAt : String
deriving DecidableEq, Repr

/-- The data of a `timeline.appended` frame. -/
structure TimelineStreamEntry where
  eventId : String
  orderId : OrderNumber
  orderReference : Option OrderNumber
  eventType : EventType
  occurredAt : String
  summary : Summary
  causationId : Option String
deriving DecidableEq, Repr

structure UpdateSignal where
  orderUpdate : OrderStreamUpdate
  timelineEntry : TimelineStreamEntry
deriving DecidableEq, Repr

/-- `NatsUpdateSignalPublisher.publish`. -/
def publish (document : AppliedOrderTimeline) : UpdateSignal :=
  { orderUpdate :=
      { eventId := document.latestEntry.eventId
        orderId := document.orderId
        orderReference := document.orderReference
        status := document.status
        cancellationReason := document.cancellationReason
        references := document.references
        totals := document.totals
        occurredAt := document.latestEntry.occurredAt }
    timelineEntry :=
      { eventId := document.latestEntry.eventId
        orderId := document.orderId
        orderReference := document.orderReference
        eventType := document.latestEntry.eventType
        occurredAt := document.latestEntry.occurredAt
        summary := document.latestEntry.summary
        causationId := document.latestEntry.causationId } }

/-- What a delivery of a fact leaves of a document and publishes of it; a fact
that the document holds publishes nothing. -/
def deliverFact (evaluate : Evaluation) (document : OrderTimelineDocument)
    (envelope : FactEnvelope) : OrderTimelineDocument × Option UpdateSignal :=
  match findOneAndUpdate evaluate document envelope with
  | none => (document, none)
  | some updated => (updated, (toAppliedOrderTimeline updated).map publish)

/-- Deliveries one after the other, with the signals published. -/
def deliverFacts (evaluate : Evaluation) :
    OrderTimelineDocument → List FactEnvelope →
      OrderTimelineDocument × List UpdateSignal
  | document, [] => (document, [])
  | document, envelope :: rest =>
      let (next, signal) := deliverFact evaluate document envelope
      let (last, signals) := deliverFacts evaluate next rest
      (last, signal.toList ++ signals)

/-! ## Stored documents -/

/-- What every document the projector writes satisfies: its entries are distinct
and their keys held. -/
structure Stored (document : OrderTimelineDocument) : Prop where
  distinct : DistinctEvents document.events
  held : ∀ entry ∈ document.events,
    dedupKeyOf entry.eventId ∈ document.processedEventKeys

/-- The entry of a fact as an update stores it. -/
def storedEntry (evaluate : Evaluation) (document : OrderTimelineDocument)
    (envelope : FactEnvelope) : TimelineEntry :=
  ((projectFact envelope).mapTexts (evaluate document)).entry

theorem events_applyFact (evaluate : Evaluation) (document : OrderTimelineDocument)
    (envelope : FactEnvelope) :
    (applyFact evaluate document envelope).events =
      causalTimelineOrder
        (document.events ++ [storedEntry evaluate document envelope]) :=
  events_deltaToPipeline evaluate _ _ document

theorem eventIds_applyFact (evaluate : Evaluation) (document : OrderTimelineDocument)
    (envelope : FactEnvelope) :
    ((applyFact evaluate document envelope).events.map TimelineEntry.eventId).Perm
      (document.events.map TimelineEntry.eventId ++ [envelope.eventId]) := by
  rw [events_applyFact]
  have moved := eventIds_causalTimelineOrder
    (document.events ++ [storedEntry evaluate document envelope])
  rwa [List.map_append] at moved

/-- A fact whose key the document does not hold is not in its timeline. -/
theorem Stored.new {document : OrderTimelineDocument} {envelope : FactEnvelope}
    (stored : Stored document)
    (fresh : dedupKeyOf envelope.eventId ∉ document.processedEventKeys) :
    envelope.eventId ∉ document.events.map TimelineEntry.eventId := by
  intro present
  rcases List.mem_map.mp present with ⟨entry, entryMem, its⟩
  exact fresh (its ▸ stored.held entry entryMem)

theorem Stored.applyFact {document : OrderTimelineDocument} {envelope : FactEnvelope}
    (evaluate : Evaluation) (stored : Stored document)
    (fresh : dedupKeyOf envelope.eventId ∉ document.processedEventKeys) :
    Stored (applyFact evaluate document envelope) where
  distinct := by
    rw [DistinctEvents, (eventIds_applyFact evaluate document envelope).nodup_iff,
      List.nodup_append]
    apply And.intro stored.distinct
    apply And.intro (List.nodup_singleton _)
    intro eventId old other new same
    rw [List.mem_singleton] at new
    subst new same
    exact stored.new fresh old
  held entry entryMem := by
    rw [processedEventKeys_applyFact, mem_unionKey]
    have eventId := (eventIds_applyFact evaluate document envelope).mem_iff.mp
      (List.mem_map_of_mem entryMem)
    rcases List.mem_append.mp eventId with old | new
    · rcases List.mem_map.mp old with ⟨earlier, earlierMem, same⟩
      exact Or.inl (same ▸ stored.held earlier earlierMem)
    · rw [List.mem_singleton] at new
      exact Or.inr (congrArg dedupKeyOf new)

/-! ## What a signal says -/

/-- Both frames carry the data of the fact. -/
structure UpdateSignal.Carries (signal : UpdateSignal) (envelope : FactEnvelope) :
    Prop where
  updateEventId : signal.orderUpdate.eventId = envelope.eventId
  updateOccurredAt : signal.orderUpdate.occurredAt = envelope.occurredAt
  eventId : signal.timelineEntry.eventId = envelope.eventId
  eventType : signal.timelineEntry.eventType = envelope.eventType
  occurredAt : signal.timelineEntry.occurredAt = envelope.occurredAt
  summary : signal.timelineEntry.summary = (summaryOf envelope.fact).1
  causationId : signal.timelineEntry.causationId = some envelope.causationId

/-- Every entry of the document comes before the fact's in the causal order of
them all. -/
def SortsLast (document : OrderTimelineDocument) (envelope : FactEnvelope) : Prop :=
  ∀ entry ∈ document.events,
    timelineKeys.AtMost (document.events ++ [entryOf envelope]) entry
      (entryOf envelope)

instance (document : OrderTimelineDocument) (envelope : FactEnvelope) :
    Decidable (SortsLast document envelope) :=
  inferInstanceAs (Decidable (∀ _ ∈ document.events, _))

/-- The order does not read an entry's detail. -/
def TimelineEntry.withoutDetail (entry : TimelineEntry) : TimelineEntry :=
  { entry with detail := none }

theorem withoutDetail_preserves :
    timelineKeys.Preserves TimelineEntry.withoutDetail where
  eventId _ := rfl
  causationId _ := rfl
  occurredAt _ := rfl

theorem sortsLast_iff (evaluate : Evaluation) (document : OrderTimelineDocument)
    (envelope : FactEnvelope) :
    SortsLast document envelope ↔
      ∀ entry ∈ document.events,
        timelineKeys.AtMost
          (document.events ++ [storedEntry evaluate document envelope]) entry
          (storedEntry evaluate document envelope) := by
  have undetailed : ∀ entry,
      timelineKeys.AtMost (document.events ++ [entryOf envelope]) entry
          (entryOf envelope) ↔
        timelineKeys.AtMost
          (document.events ++ [storedEntry evaluate document envelope]) entry
          (storedEntry evaluate document envelope) := by
    intro entry
    rw [← withoutDetail_preserves.atMost, ← withoutDetail_preserves.atMost timelineKeys
      (document.events ++ [storedEntry evaluate document envelope]), List.map_append,
      List.map_append]
    rfl
  exact forall₂_congr fun entry _ => undetailed entry

/-- A signal is published of an update, from its last entry. -/
theorem deliverFact_eq_some {evaluate : Evaluation} {document : OrderTimelineDocument}
    {envelope : FactEnvelope} {signal : UpdateSignal}
    (published : (deliverFact evaluate document envelope).2 = some signal) :
    dedupKeyOf envelope.eventId ∉ document.processedEventKeys ∧
      (deliverFact evaluate document envelope).1 = applyFact evaluate document envelope ∧
      ∃ latest, (applyFact evaluate document envelope).events.getLast? = some latest ∧
        signal.orderUpdate.eventId = latest.eventId ∧
        signal.orderUpdate.occurredAt = latest.occurredAt ∧
        signal.timelineEntry.eventId = latest.eventId ∧
        signal.timelineEntry.eventType = latest.eventType ∧
        signal.timelineEntry.occurredAt = latest.occurredAt ∧
        signal.timelineEntry.summary = latest.summary ∧
        signal.timelineEntry.causationId = latest.causationId := by
  unfold deliverFact findOneAndUpdate at published ⊢
  by_cases held : dedupKeyOf envelope.eventId ∈ document.processedEventKeys
  · rw [if_pos held] at published
    contradiction
  · rw [if_neg held] at published ⊢
    apply And.intro held
    apply And.intro rfl
    simp only [toAppliedOrderTimeline, Option.map_map, Option.map_eq_some_iff] at published
    rcases published with ⟨latest, last, rfl⟩
    exact ⟨latest, last, rfl, rfl, rfl, rfl, rfl, rfl, rfl⟩

/-- A signal carries the data of the fact that was applied exactly where the fact
sorts last. -/
theorem carries_iff_sortsLast {evaluate : Evaluation}
    {document : OrderTimelineDocument} {envelope : FactEnvelope}
    {signal : UpdateSignal} (stored : Stored document)
    (published : (deliverFact evaluate document envelope).2 = some signal) :
    signal.Carries envelope ↔ SortsLast document envelope := by
  rcases deliverFact_eq_some published with
    ⟨fresh, -, latest, isLast, updateId, updateAt, eventId, eventType, occurredAt,
      summary, causationId⟩
  have distinct : timelineKeys.Distinct
      (document.events ++ [storedEntry evaluate document envelope]) := by
    have updated := (stored.applyFact evaluate fresh).distinct
    rw [DistinctEvents, (eventIds_applyFact evaluate document envelope).nodup_iff] at updated
    rwa [Keys.Distinct, List.map_append]
  have mem : storedEntry evaluate document envelope ∈
      document.events ++ [storedEntry evaluate document envelope] :=
    List.mem_append_right _ (List.mem_singleton_self _)
  rw [events_applyFact, causalTimelineOrder, List.getLast?_map,
    Option.map_eq_some_iff] at isLast
  rcases isLast with ⟨last, isLast, rfl⟩
  have lastMem := (timelineKeys.mem_causalOrder).mp (List.mem_of_getLast? isLast)
  rw [sortsLast_iff evaluate]
  have upper := timelineKeys.getLast?_causalOrder_eq_some_iff distinct mem
  constructor
  · intro carries
    have same : last = storedEntry evaluate document envelope := by
      apply Keys.Distinct.inj timelineKeys distinct lastMem mem
      exact eventId.symm.trans carries.eventId
    rw [same] at isLast
    intro entry entryMem
    exact upper.mp isLast entry (List.mem_append_left _ entryMem)
  · intro sortsLast
    have stands : (timelineKeys.causalOrder
        (document.events ++ [storedEntry evaluate document envelope])).getLast? =
          some (storedEntry evaluate document envelope) := by
      apply upper.mpr
      intro other otherMem
      rcases List.mem_append.mp otherMem with old | new
      · exact sortsLast other old
      · rw [List.mem_singleton] at new
        rw [new]
        exact le_refl _
    rw [isLast, Option.some.injEq] at stands
    subst stands
    exact ⟨updateId, updateAt, eventId, eventType, occurredAt, summary, causationId⟩

end OrderToCash.Projector
