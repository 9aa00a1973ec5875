import OrderToCash.Projector.FinalStatus
import OrderToCash.Projector.Signal
import OrderToCash.Projector.TimelineMigration

/-!
# The history of a document

A document begins as a placeholder, or it was seeded before the projector kept a
rank and a ledger of keys and is given both at boot.  From then on it takes facts,
some of them again, and is sorted anew when the order of timelines changes.  Its
rank, its status, its timeline and its ledger stay in step.
-/

namespace OrderToCash.Projector

open OrderToCash.Contracts
open OrderToCash.Kernel
open OrderToCash.Orders
open OrderToCash.Transition

/-! ## The backfill of seeded documents -/

/-- The rank of a status, for documents that were written without one. -/
def statusRankSwitch : OrderStatus → Nat
  | .placed => 1
  | .stockReserved => 2
  | .creditApproved => 3
  | .confirmed => 4
  | .despatched => 5
  | .invoiced => 6
  | .paid => 7
  | .completed => 98
  | .cancelled => 99

/-- A document as stored.  Where the field `statusRank` does not exist, neither it
nor the ledger of keys says anything. -/
structure StoredDocument where
  document : OrderTimelineDocument
  hasRank : Bool
deriving DecidableEq, Repr

def backfill (stored : StoredDocument) : StoredDocument :=
  if stored.hasRank then
    stored
  else
    { document :=
        { stored.document with
          statusRank := statusRankSwitch stored.document.status
          processedEventKeys :=
            (stored.document.events.map fun entry =>
              dedupKeyOf entry.eventId).insertionSort (· ≤ ·) }
      hasRank := true }

def backfillLegacyDocuments (collection : List StoredDocument) :
    List StoredDocument × Nat :=
  (collection.map backfill, (collection.filter fun stored => !stored.hasRank).length)

theorem hasRank_backfill (stored : StoredDocument) : (backfill stored).hasRank = true := by
  unfold backfill
  split
  · assumption
  · rfl

/-- The backfill has nothing to do a second time. -/
theorem backfillLegacyDocuments_again (collection : List StoredDocument) :
    backfillLegacyDocuments (backfillLegacyDocuments collection).1 =
      ((backfillLegacyDocuments collection).1, 0) := by
  have unchanged : ∀ stored, backfill (backfill stored) = backfill stored :=
    fun stored => if_pos (hasRank_backfill stored)
  have noneLeft : (((collection.map backfill).filter fun stored =>
      !stored.hasRank)) = [] := by
    rw [List.filter_eq_nil_iff]
    intro stored storedMem
    rcases List.mem_map.mp storedMem with ⟨before, _, rfl⟩
    simp [hasRank_backfill]
  unfold backfillLegacyDocuments
  rw [noneLeft, List.map_map]
  simp [Function.comp_def, unchanged]

/-- A document that a seed wrote before it had a rank: its entries are distinct,
and its status is the highest of those its entries prove.  The seed writes
documents of finished sagas only, which are so. -/
structure SeededDocument where
  document : OrderTimelineDocument
  distinct : DistinctEvents document.events
  topmost : ∀ entry ∈ document.events,
    rankOf entry.eventType ≤ statusRankSwitch document.status

/-- The timeline of a seeded saga that went through. -/
def completedTimeline : List EventType :=
  [ .orderPlaced, .stockReserved, .creditApproved, .orderConfirmed,
    .orderDespatched, .invoiceIssued, .paymentReceived, .creditReleased,
    .orderCompleted ]

/-- The timeline of a seeded saga whose credit was rejected. -/
def cancelledTimeline : List EventType :=
  [ .orderPlaced, .stockReserved, .creditRejected, .stockReleased,
    .orderCancelled ]

/-- Seeded sagas are finished, one way or the other. -/
def SeededSaga (document : OrderTimelineDocument) : Prop :=
  (document.status = .completed ∧
      document.events.map TimelineEntry.eventType = completedTimeline) ∨
    (document.status = .cancelled ∧
      document.events.map TimelineEntry.eventType = cancelledTimeline)

def SeededDocument.ofSaga (document : OrderTimelineDocument)
    (distinct : DistinctEvents document.events) (saga : SeededSaga document) :
    SeededDocument where
  document := document
  distinct := distinct
  topmost := by
    intro entry entryMem
    have typeMem : entry.eventType ∈ document.events.map TimelineEntry.eventType :=
      List.mem_map_of_mem entryMem
    rcases saga with ⟨status, types⟩ | ⟨status, types⟩
    · rw [types] at typeMem
      rw [status]
      have below : ∀ eventType ∈ completedTimeline,
          rankOf eventType ≤ statusRankSwitch .completed := by decide
      exact below _ typeMem
    · rw [types] at typeMem
      rw [status]
      have below : ∀ eventType ∈ cancelledTimeline,
          rankOf eventType ≤ statusRankSwitch .cancelled := by decide
      exact below _ typeMem

/-! ## Origins and events -/

/-- What a document was when the projector first had it. -/
inductive Origin
  | placeholder (orderId : OrderNumber) (seedOccurredAt : String)
  | seeded (seed : SeededDocument)

namespace Origin

/-- A placeholder, or a seeded document after the backfill. -/
def document : Origin → OrderTimelineDocument
  | placeholder orderId seedOccurredAt => placeholderSkeleton orderId seedOccurredAt
  | seeded seed => (backfill ⟨seed.document, false⟩).document

/-- The status that no fact had to prove. -/
def status : Origin → OrderStatus
  | placeholder _ _ => .placed
  | seeded seed => seed.document.status

def IsPlaceholder : Origin → Prop
  | placeholder _ _ => True
  | seeded _ => False

end Origin

/-- A fact is delivered, for the first time or again, or the service boots. -/
inductive ReadModelEvent
  | fact (envelope : FactEnvelope)
  | boot

/-- The upsert and the update of a delivery find the document; a boot sorts it if
its version is another. -/
def consume (evaluate : Evaluation) (document : OrderTimelineDocument) :
    ReadModelEvent → OrderTimelineDocument
  | .fact envelope => (findOneAndUpdate evaluate document envelope).getD document
  | .boot => if VersionMismatch document then resort document else document

def consumeAll (evaluate : Evaluation) (document : OrderTimelineDocument)
    (events : List ReadModelEvent) : OrderTimelineDocument :=
  events.foldl (consume evaluate) document

section Consume

variable {evaluate : Evaluation} {document : OrderTimelineDocument}
  {envelope : FactEnvelope}

theorem consume_fact_of_mem
    (held : dedupKeyOf envelope.eventId ∈ document.processedEventKeys) :
    consume evaluate document (.fact envelope) = document := by
  simp only [consume, findOneAndUpdate, if_pos held, Option.getD_none]

theorem consume_fact_of_notMem
    (fresh : dedupKeyOf envelope.eventId ∉ document.processedEventKeys) :
    consume evaluate document (.fact envelope) =
      applyFact evaluate document envelope := by
  simp only [consume, findOneAndUpdate, if_neg fresh, Option.getD_some]

theorem consume_boot :
    consume evaluate document .boot = resort document ∨
      consume evaluate document .boot = document := by
  by_cases mismatch : VersionMismatch document
  · exact Or.inl (if_pos mismatch)
  · exact Or.inr (if_neg mismatch)

theorem consumeAll_append (before after : List ReadModelEvent) :
    consumeAll evaluate document (before ++ after) =
      consumeAll evaluate (consumeAll evaluate document before) after :=
  List.foldl_append

end Consume

/-! ## What stays in step -/

/-- The rank of a fact is that of the status it proves. -/
theorem statusRankSwitch_of_implied {eventType : EventType} {status : OrderStatus}
    (proves : impliedStatusOf eventType = some status) :
    statusRankSwitch status = rankOf eventType := by
  revert proves
  cases eventType <;> cases status <;> decide

/-- The types and identities of a timeline, its entries in any order and with or
without a rank. -/
theorem exists_of_mem_causalTimelineOrder {entries : List TimelineEntry}
    {entry : TimelineEntry} :
    entry ∈ causalTimelineOrder entries ↔
      ∃ original ∈ entries, original.withoutRank = entry := by
  rw [(causalTimelineOrder_perm entries).mem_iff, List.mem_map]

/-- A document in step with its origin. -/
structure InStep (origin : Origin) (document : OrderTimelineDocument) : Prop where
  /-- The rank is the status's, until the first status of a placeholder. -/
  ranked : document.statusRank = statusRankSwitch document.status ∨
    origin.IsPlaceholder ∧ document.statusRank = 0 ∧ document.status = .placed ∧
      ∀ entry ∈ document.events, impliedStatusOf entry.eventType = none
  proved : document.status = origin.status ∨
    ∃ entry ∈ document.events, impliedStatusOf entry.eventType = some document.status
  highest : ∀ entry ∈ document.events, rankOf entry.eventType ≤ document.statusRank
  aboveOrigin : statusRankSwitch origin.status ≤ statusRankSwitch document.status
  stored : Stored document

namespace InStep

variable {evaluate : Evaluation} {origin : Origin} {document : OrderTimelineDocument}

theorem start (origin : Origin) : InStep origin origin.document := by
  cases origin with
  | placeholder orderId seedOccurredAt =>
      constructor
      · exact Or.inr ⟨trivial, rfl, rfl, fun _ entryMem => nomatch entryMem⟩
      · exact Or.inl rfl
      · exact fun _ entryMem => nomatch entryMem
      · exact Nat.le_refl _
      · exact ⟨List.nodup_nil, fun _ entryMem => nomatch entryMem⟩
  | seeded seed =>
      constructor
      · exact Or.inl rfl
      · exact Or.inl rfl
      · exact seed.topmost
      · exact Nat.le_refl _
      · refine ⟨seed.distinct, fun entry entryMem => ?_⟩
        exact (List.mem_insertionSort _).mpr
          (List.mem_map.mpr ⟨entry, entryMem, rfl⟩)

/-- The rank of the document is at most that of its status. -/
theorem statusRank_le (inStep : InStep origin document) :
    document.statusRank ≤ statusRankSwitch document.status := by
  rcases inStep.ranked with same | ⟨_, zero, _⟩
  · exact Nat.le_of_eq same
  · rw [zero]
    exact Nat.zero_le _

/-- An update never takes the status down. -/
theorem status_applyFact_le (inStep : InStep origin document)
    (envelope : FactEnvelope) :
    statusRankSwitch document.status ≤
      statusRankSwitch (applyFact evaluate document envelope).status := by
  rw [status_applyFact]
  unfold raise
  cases proves : impliedStatusOf envelope.eventType with
  | none => exact Nat.le_refl _
  | some status =>
      by_cases below : document.statusRank < rankOf envelope.eventType
      · simp only [if_pos below, statusRankSwitch_of_implied proves]
        rcases inStep.ranked with same | ⟨_, _, placed, _⟩
        · exact Nat.le_of_lt (same ▸ below)
        · rw [placed]
          exact rankOf_pos proves
      · simp only [if_neg below]
        exact Nat.le_refl _

/-- What an update appends is of its fact's type. -/
theorem mem_events_applyFact {envelope : FactEnvelope} {entry : TimelineEntry}
    (entryMem : entry ∈ (applyFact evaluate document envelope).events) :
    (∃ original ∈ document.events, original.withoutRank = entry) ∨
      entry.eventType = envelope.eventType := by
  rw [events_applyFact, exists_of_mem_causalTimelineOrder] at entryMem
  rcases entryMem with ⟨original, originalMem, rfl⟩
  rcases List.mem_append.mp originalMem with before | new
  · exact Or.inl ⟨original, before, rfl⟩
  · rw [List.mem_singleton] at new
    subst new
    exact Or.inr rfl

theorem withoutRank_mem_events_applyFact {envelope : FactEnvelope}
    {entry : TimelineEntry} (entryMem : entry ∈ document.events) :
    entry.withoutRank ∈ (applyFact evaluate document envelope).events := by
  rw [events_applyFact, exists_of_mem_causalTimelineOrder]
  exact ⟨entry, List.mem_append_left _ entryMem, rfl⟩

theorem storedEntry_mem_events_applyFact (envelope : FactEnvelope) :
    (storedEntry evaluate document envelope).withoutRank ∈
      (applyFact evaluate document envelope).events := by
  rw [events_applyFact, exists_of_mem_causalTimelineOrder]
  exact ⟨_, List.mem_append_right _ (List.mem_singleton.mpr rfl), rfl⟩

/-- A fact that is new keeps the document in step. -/
theorem applyFact (inStep : InStep origin document) {envelope : FactEnvelope}
    (fresh : dedupKeyOf envelope.eventId ∉ document.processedEventKeys) :
    InStep origin (applyFact evaluate document envelope) where
  ranked := by
    rw [status_applyFact, statusRank_applyFact]
    unfold raise
    cases proves : impliedStatusOf envelope.eventType with
    | none =>
        rw [rankOf_eq_zero_of_impliedStatusOf proves, Nat.max_zero]
        rcases inStep.ranked with same | ⟨isPlaceholder, zero, placed, noStatus⟩
        · exact Or.inl same
        · refine Or.inr ⟨isPlaceholder, zero, placed, ?_⟩
          intro entry entryMem
          rcases mem_events_applyFact entryMem with ⟨original, before, rfl⟩ | new
          · exact noStatus original before
          · rw [new]
            exact proves
    | some status =>
        left
        by_cases below : document.statusRank < rankOf envelope.eventType
        · simp only [if_pos below, statusRankSwitch_of_implied proves]
          exact Nat.max_eq_right (Nat.le_of_lt below)
        · simp only [if_neg below]
          rw [Nat.max_eq_left (Nat.not_lt.mp below)]
          rcases inStep.ranked with same | ⟨_, zero, _⟩
          · exact same
          · rw [zero] at below
            exact absurd (rankOf_pos proves) below
  proved := by
    have kept : document.status = origin.status ∨
        ∃ entry ∈ (Projector.applyFact evaluate document envelope).events,
          impliedStatusOf entry.eventType = some document.status := by
      rcases inStep.proved with same | ⟨entry, entryMem, proves⟩
      · exact Or.inl same
      · exact Or.inr ⟨entry.withoutRank, withoutRank_mem_events_applyFact entryMem,
          proves⟩
    rw [status_applyFact]
    unfold raise
    cases proves : impliedStatusOf envelope.eventType with
    | none => exact kept
    | some status =>
        by_cases below : document.statusRank < rankOf envelope.eventType
        · simp only [if_pos below]
          exact Or.inr ⟨_, storedEntry_mem_events_applyFact envelope, proves⟩
        · simp only [if_neg below]
          exact kept
  highest := by
    intro entry entryMem
    rw [statusRank_applyFact]
    rcases mem_events_applyFact entryMem with ⟨original, before, rfl⟩ | new
    · exact Nat.le_trans (inStep.highest original before) (Nat.le_max_left _ _)
    · rw [new]
      exact Nat.le_max_right _ _
  aboveOrigin := Nat.le_trans inStep.aboveOrigin (inStep.status_applyFact_le envelope)
  stored := inStep.stored.applyFact evaluate fresh

theorem resort (inStep : InStep origin document) : InStep origin (resort document) where
  ranked := by
    rcases inStep.ranked with same | ⟨isPlaceholder, zero, placed, noStatus⟩
    · exact Or.inl same
    · refine Or.inr ⟨isPlaceholder, zero, placed, fun entry entryMem => ?_⟩
      rcases exists_of_mem_causalTimelineOrder.mp entryMem with ⟨original, before, rfl⟩
      exact noStatus original before
  proved := by
    rcases inStep.proved with same | ⟨entry, entryMem, proves⟩
    · exact Or.inl same
    · exact Or.inr ⟨entry.withoutRank,
        exists_of_mem_causalTimelineOrder.mpr ⟨entry, entryMem, rfl⟩, proves⟩
  highest entry entryMem := by
    rcases exists_of_mem_causalTimelineOrder.mp entryMem with ⟨original, before, rfl⟩
    exact inStep.highest original before
  aboveOrigin := inStep.aboveOrigin
  stored := by
    refine ⟨?_, fun entry entryMem => ?_⟩
    · exact ((eventIds_causalTimelineOrder document.events).nodup_iff).mpr
        inStep.stored.distinct
    · rcases exists_of_mem_causalTimelineOrder.mp entryMem with ⟨original, before, rfl⟩
      exact inStep.stored.held original before

theorem consume (inStep : InStep origin document) (event : ReadModelEvent) :
    InStep origin (consume evaluate document event) := by
  cases event with
  | fact envelope =>
      by_cases held : dedupKeyOf envelope.eventId ∈ document.processedEventKeys
      · rw [consume_fact_of_mem held]
        exact inStep
      · rw [consume_fact_of_notMem held]
        exact inStep.applyFact held
  | boot =>
      rcases @consume_boot evaluate document with sorted | same
      · rw [sorted]
        exact inStep.resort
      · rw [same]
        exact inStep

theorem status_consume_le (inStep : InStep origin document) (event : ReadModelEvent) :
    statusRankSwitch document.status ≤
      statusRankSwitch (Projector.consume evaluate document event).status := by
  cases event with
  | fact envelope =>
      by_cases held : dedupKeyOf envelope.eventId ∈ document.processedEventKeys
      · rw [consume_fact_of_mem held]
      · rw [consume_fact_of_notMem held]
        exact inStep.status_applyFact_le envelope
  | boot =>
      rcases @consume_boot evaluate document with sorted | same
      · rw [sorted]
        exact Nat.le_refl _
      · rw [same]

theorem consumeAll (inStep : InStep origin document) (events : List ReadModelEvent) :
    InStep origin (consumeAll evaluate document events) := by
  induction events generalizing document with
  | nil => exact inStep
  | cons event rest inductionHypothesis =>
      exact inductionHypothesis (inStep.consume event)

theorem status_consumeAll_le (inStep : InStep origin document)
    (events : List ReadModelEvent) :
    statusRankSwitch document.status ≤
      statusRankSwitch (Projector.consumeAll evaluate document events).status := by
  induction events generalizing document with
  | nil => exact Nat.le_refl _
  | cons event rest inductionHypothesis =>
      exact Nat.le_trans (inStep.status_consume_le event)
        (inductionHypothesis (inStep.consume event))

/-- A fact that is in the timeline is suppressed. -/
theorem consume_of_mem (inStep : InStep origin document) {envelope : FactEnvelope}
    (held : envelope.eventId ∈ document.events.map TimelineEntry.eventId) :
    Projector.consume evaluate document (.fact envelope) = document := by
  rcases List.mem_map.mp held with ⟨entry, entryMem, same⟩
  have keyed := inStep.stored.held entry entryMem
  rw [same] at keyed
  exact consume_fact_of_mem keyed

end InStep

/-- Whatever a document was at first, a placeholder or a document of the seed with
the topmost status of its entries, and whatever facts come, however often: its
status never goes down, its rank is its status's, its status is the highest of
the one it began with and those its timeline proves, and its timeline holds every
fact once. -/
theorem read_model_never_regresses (evaluate : Evaluation) (origin : Origin)
    (before after : List ReadModelEvent) :
    let document := consumeAll evaluate origin.document before
    statusRankSwitch document.status ≤
        statusRankSwitch
          (consumeAll evaluate origin.document (before ++ after)).status ∧
      (document.statusRank = statusRankSwitch document.status ∨
        origin.IsPlaceholder ∧ document.statusRank = 0 ∧ document.status = .placed ∧
          ∀ entry ∈ document.events, impliedStatusOf entry.eventType = none) ∧
      (document.status = origin.status ∨ ∃ entry ∈ document.events,
        impliedStatusOf entry.eventType = some document.status) ∧
      statusRankSwitch origin.status ≤ statusRankSwitch document.status ∧
      (∀ entry ∈ document.events, ∀ status,
        impliedStatusOf entry.eventType = some status →
          statusRankSwitch status ≤ statusRankSwitch document.status) ∧
      DistinctEvents document.events ∧
      ∀ envelope : FactEnvelope,
        envelope.eventId ∈ document.events.map TimelineEntry.eventId →
          consume evaluate document (.fact envelope) = document := by
  intro document
  have inStep : InStep origin document := (InStep.start origin).consumeAll before
  refine ⟨?_, inStep.ranked, inStep.proved, inStep.aboveOrigin, ?_,
    inStep.stored.distinct, fun _ => inStep.consume_of_mem⟩
  · rw [consumeAll_append]
    exact inStep.status_consumeAll_le after
  · intro entry entryMem status proves
    rw [statusRankSwitch_of_implied proves]
    exact Nat.le_trans (inStep.highest entry entryMem) inStep.statusRank_le

/-- The timeline of the order that the seed cancels, without ranks as it is written. -/
def cancelledSagaEvents : List TimelineEntry :=
  [ ⟨"6-placed", .orderPlaced, "2026-06-06T09:00:00.000Z",
      .orderPlaced ⟨6⟩ "CarrefourEs", some "6-create", none, none⟩,
    ⟨"6-reserved", .stockReserved, "2026-06-06T09:01:00.000Z",
      .stockReserved 1, some "6-placed", none, none⟩,
    ⟨"6-rejected", .creditRejected, "2026-06-06T09:02:00.000Z",
      .creditRejected 24999 .eur .simulatedCentsRule, some "6-reserved",
      some (.creditRejected .simulatedCentsRule 24999), none⟩,
    ⟨"6-released", .stockReleased, "2026-06-06T09:03:00.000Z",
      .stockReleased 1 true, some "6-rejected", none, none⟩,
    ⟨"6-cancelled", .orderCancelled, "2026-06-06T09:03:30.000Z",
      .orderCancelled ⟨6⟩ .creditRejected, some "6-released",
      some (.orderCancelled .creditRejected []), none⟩ ]

/-- The document the seed writes of it. -/
def cancelledSagaDocument : OrderTimelineDocument :=
  { orderId := ⟨6⟩
    orderReference := some ⟨6⟩
    orderDate := some "2026-06-06T09:00:00.000Z"
    retailer := ⟨some "CarrefourEs", none, none⟩
    company := ⟨some "IBERFOODS", none, none⟩
    status := .cancelled
    cancellationReason := some .creditRejected
    currency := some "EUR"
    totals := ⟨some 24999, some 0, some 24999⟩
    items := [⟨"PRD-0001", none, 1, 24999, 0⟩]
    references := ⟨none, none, none⟩
    events := cancelledSagaEvents
    headerComplete := true
    updatedAt := "2026-06-06T09:03:30.000Z"
    statusRank := 0
    processedEventKeys := []
    timelineOrderVersion := none }

/-- The cancelled saga as an origin. -/
def cancelledSaga : SeededDocument :=
  .ofSaga cancelledSagaDocument (by unfold DistinctEvents; decide) (Or.inr ⟨rfl, rfl⟩)

/-- A fact that was not in the seed and would confirm the order. -/
def lateConfirmation : FactEnvelope :=
  { eventId := "6-confirmed"
    causationId := "6-approved"
    occurredAt := "2026-06-06T09:04:00.000Z"
    fact := .orderConfirmed ⟨⟨6⟩, "CarrefourEs", "IBERFOODS", "EUR", 24999⟩
    placement := ⟨"", "", ""⟩ }

/-- The document of a seeded saga stays cancelled, with the topmost status of its
entries, though a confirmation comes late and the service boots again. -/
theorem cancelled_saga_never_regresses :
    let seeded := (Origin.seeded cancelledSaga).document
    let document := consumeAll (fun _ text => text) seeded
      [.boot, .fact lateConfirmation]
    document.status = .cancelled ∧ document.events.length = 6 ∧
      (∀ entry ∈ document.events, ∀ status,
        impliedStatusOf entry.eventType = some status →
          statusRankSwitch status ≤ statusRankSwitch document.status) ∧
      DistinctEvents document.events := by
  intro seeded document
  have entries : document.events.length = 6 := by decide +kernel
  rcases read_model_never_regresses (fun _ text => text) (.seeded cancelledSaga)
      [.boot, .fact lateConfirmation] [] with
    ⟨_, _, _, aboveSeed, topmost, distinct, _⟩
  have top : 99 ≤ statusRankSwitch document.status := aboveSeed
  have isCancelled : document.status = .cancelled := by
    cases status : document.status with
    | cancelled => rfl
    | _ => simp [status, statusRankSwitch] at top
  exact ⟨isCancelled, entries, topmost, distinct⟩

/-! ## Deliveries that overlap -/

/-- However the deliveries of a document's facts overlap, what they leave is what
some of their facts leave one after the other. -/
theorem exists_consumeAll_of_reachable {evaluate : Evaluation}
    {guard : Guard ProjectorSystem ProjectorAction}
    {document : OrderTimelineDocument} {calls : List ApplyCall}
    {system : ProjectorSystem}
    (reached : Reachable (ProjectorSystem.step evaluate) guard
      ⟨some document, calls⟩ system) :
    ∃ events, system.document = some (consumeAll evaluate document events) := by
  induction reached with
  | refl => exact ⟨[], rfl⟩
  | tail _ _ stepped inductionHypothesis =>
      rcases inductionHypothesis with ⟨events, isConsumed⟩
      cases ProjectorSystem.moves_of_step stepped with
      | deliver envelope => exact ⟨events, isConsumed⟩
      | stay => exact ⟨events, isConsumed⟩
      | skip => exact ⟨events, isConsumed⟩
      | seed _ _ _ _ _ absent =>
          rw [isConsumed] at absent
          cases absent
      | apply _ _ envelope current _ isCurrent fresh =>
          rw [isConsumed, Option.some.injEq] at isCurrent
          refine ⟨events ++ [.fact envelope], ?_⟩
          have applied := @consume_fact_of_notMem evaluate current envelope fresh
          rw [consumeAll_append, isCurrent]
          exact congrArg some applied.symm

end OrderToCash.Projector
