import OrderToCash.Projector.Writer
import Mathlib.Data.List.Dedup
import Mathlib.Order.Lattice

/-!
# Updates commute

The updates of two facts of one order come to the same document in either order,
where at most one of them carries each of the fields that are written once and
their texts are plain.
-/

namespace OrderToCash.Projector

open OrderToCash.Causal
open OrderToCash.Contracts
open OrderToCash.Kernel
open OrderToCash.Orders

/-! ## Plain texts -/

theorem map_eq_self {α : Type} {change : α → α} {items : List α}
    (fixed : ∀ item ∈ items, change item = item) : items.map change = items :=
  (List.map_congr_left fixed).trans (List.map_id' items)

theorem EntryDetail.mapTexts_eq_self {f : String → String} (detail : EntryDetail)
    (fixed : ∀ text ∈ detail.texts, f text = text) : detail.mapTexts f = detail := by
  cases detail with
  | stockRejected shortages reason =>
      rw [mapTexts, map_eq_self]
      intro shortage shortageMem
      rw [fixed _ (List.mem_map_of_mem shortageMem)]
  | stockReleased released reason =>
      rw [mapTexts, map_eq_self]
      intro reservation reservationMem
      rw [fixed _ (List.mem_map_of_mem reservationMem)]
  | creditRejected reason requestedAmount => rfl
  | orderCancelled cancellationReason compensationSteps =>
      rw [mapTexts, map_eq_self]
      intro step stepMem
      rw [fixed _ (List.mem_map_of_mem stepMem)]
  | orderSagaFailed command attempts lastError =>
      rw [mapTexts, fixed command (by simp [texts]), fixed lastError (by simp [texts])]

theorem OrderHeaderDelta.mapTexts_eq_self {f : String → String}
    (header : OrderHeaderDelta) (fixed : ∀ text ∈ header.texts, f text = text) :
    header.mapTexts f = header := by
  have items : header.items.map
      (fun item => { item with productCode := f item.productCode }) =
      header.items := by
    apply map_eq_self
    intro item itemMem
    rw [fixed _ (List.mem_append_right _ (List.mem_map_of_mem itemMem))]
  rw [mapTexts, items]
  have single : ∀ text ∈ [header.orderDate, header.retailerCode, header.retailerGln,
      header.companyCode, header.companyGln, header.currency], f text = text := by
    intro text textMem
    exact fixed text (List.mem_append_left _ textMem)
  simp only [List.forall_mem_cons] at single
  rcases single with
    ⟨orderDate, retailerCode, retailerGln, companyCode, companyGln, currency, -⟩
  rw [orderDate, retailerCode, retailerGln, companyCode, companyGln, currency]

theorem ProjectionDelta.mapTexts_eq_self {f : String → String}
    (delta : ProjectionDelta) (fixed : ∀ text ∈ delta.texts, f text = text) :
    delta.mapTexts f = delta := by
  have detail : delta.entry.detail.map (EntryDetail.mapTexts f) =
      delta.entry.detail := by
    cases stored : delta.entry.detail with
    | none => rfl
    | some detail =>
        rw [Option.map_some, detail.mapTexts_eq_self]
        intro text textMem
        apply fixed
        simp [texts, stored, textMem]
  have payment : delta.fillIfAbsent.references.paymentReference.map f =
      delta.fillIfAbsent.references.paymentReference := by
    cases stored : delta.fillIfAbsent.references.paymentReference with
    | none => rfl
    | some paymentReference =>
        rw [Option.map_some, fixed]
        simp [texts, stored]
  have header : delta.header.map (OrderHeaderDelta.mapTexts f) = delta.header := by
    cases stored : delta.header with
    | none => rfl
    | some header =>
        rw [Option.map_some, header.mapTexts_eq_self]
        intro text textMem
        apply fixed
        simp [texts, stored, textMem]
  rw [mapTexts, detail, payment, header]

/-- No text that the fact's update takes from its payload is a path. -/
def FactEnvelope.Plain (envelope : FactEnvelope) : Prop :=
  ∀ text ∈ (projectFact envelope).texts, Projector.Plain text

instance (envelope : FactEnvelope) : Decidable envelope.Plain :=
  inferInstanceAs (Decidable (∀ _ ∈ _, _))

/-- The update of a fact where the database evaluates nothing. -/
def applyPlain (document : OrderTimelineDocument) (envelope : FactEnvelope) :
    OrderTimelineDocument :=
  setStage (projectFact envelope) (dedupKeyOf envelope.eventId) document

theorem applyFact_eq_applyPlain {evaluate : Evaluation} (keeps : evaluate.KeepsPlain)
    {envelope : FactEnvelope} (plain : envelope.Plain)
    (document : OrderTimelineDocument) :
    applyFact evaluate document envelope = applyPlain document envelope := by
  rw [applyFact, deltaToPipeline, ProjectionDelta.mapTexts_eq_self]
  · rfl
  · exact fun text textMem => keeps document text (plain text textMem)

/-! ## Fields of an update -/

theorem unionKey_perm (keys : List String) (dedupKey : String) :
    (unionKey keys dedupKey).Perm (keys ++ [dedupKey]).dedup :=
  List.perm_insertionSort _ _

theorem mem_unionKey {keys : List String} {dedupKey key : String} :
    key ∈ unionKey keys dedupKey ↔ key ∈ keys ∨ key = dedupKey := by
  rw [(unionKey_perm keys dedupKey).mem_iff, List.mem_dedup, List.mem_append,
    List.mem_singleton]

theorem unionKey_comm (keys : List String) (first second : String) :
    unionKey (unionKey keys first) second = unionKey (unionKey keys second) first := by
  have nodup : ∀ keys dedupKey, (unionKey keys dedupKey).Nodup := fun keys dedupKey =>
    (unionKey_perm keys dedupKey).nodup_iff.mpr (List.nodup_dedup _)
  apply @List.Perm.eq_of_pairwise String (· ≤ ·)
  · intro one other _ _
    exact le_antisymm
  · exact List.pairwise_insertionSort _ _
  · exact List.pairwise_insertionSort _ _
  · rw [List.perm_ext_iff_of_nodup (nodup _ _) (nodup _ _)]
    intro key
    rw [mem_unionKey, mem_unionKey, mem_unionKey, mem_unionKey, or_right_comm]

theorem withoutRank_preserves : timelineKeys.Preserves TimelineEntry.withoutRank where
  eventId _ := rfl
  causationId _ := rfl
  occurredAt _ := rfl

theorem causalTimelineOrder_eq (entries : List TimelineEntry) :
    causalTimelineOrder entries =
      timelineKeys.causalOrder (entries.map TimelineEntry.withoutRank) :=
  (withoutRank_preserves.causalOrder timelineKeys entries).symm

/-- The identities of a timeline's entries are distinct. -/
def DistinctEvents (entries : List TimelineEntry) : Prop :=
  (entries.map TimelineEntry.eventId).Nodup

theorem causalTimelineOrder_eq_of_perm {entries entries' : List TimelineEntry}
    (distinct : DistinctEvents entries) (perm : entries.Perm entries') :
    causalTimelineOrder entries = causalTimelineOrder entries' := by
  rw [causalTimelineOrder, timelineKeys.causalOrder_eq_of_perm distinct perm]
  rfl

theorem causalTimelineOrder_perm (entries : List TimelineEntry) :
    (causalTimelineOrder entries).Perm (entries.map TimelineEntry.withoutRank) :=
  (timelineKeys.causalOrder_perm entries).map _

theorem eventIds_causalTimelineOrder (entries : List TimelineEntry) :
    ((causalTimelineOrder entries).map TimelineEntry.eventId).Perm
      (entries.map TimelineEntry.eventId) := by
  have moved := (causalTimelineOrder_perm entries).map TimelineEntry.eventId
  rwa [List.map_map] at moved

theorem withoutRank_causalTimelineOrder (entries : List TimelineEntry) :
    (causalTimelineOrder entries).map TimelineEntry.withoutRank =
      causalTimelineOrder entries := by
  rw [causalTimelineOrder, List.map_map]
  rfl

/-- A timeline in causal order stays as it is. -/
theorem causalTimelineOrder_causalTimelineOrder {entries : List TimelineEntry}
    (distinct : DistinctEvents entries) :
    causalTimelineOrder (causalTimelineOrder entries) = causalTimelineOrder entries := by
  rw [causalTimelineOrder_eq (causalTimelineOrder entries),
    withoutRank_causalTimelineOrder, causalTimelineOrder_eq]
  apply timelineKeys.causalOrder_causalOrder
  rw [Keys.Distinct, List.map_map]
  exact distinct

/-- Appending to an ordered timeline is appending to the entries. -/
theorem causalTimelineOrder_append {entries added : List TimelineEntry}
    (distinct : DistinctEvents (entries ++ added)) :
    causalTimelineOrder (causalTimelineOrder entries ++ added) =
      causalTimelineOrder (entries ++ added) := by
  rw [causalTimelineOrder_eq, causalTimelineOrder_eq (entries ++ added)]
  have twice := withoutRank_causalTimelineOrder entries
  have withoutRank_ids : ∀ others : List TimelineEntry,
      (others.map TimelineEntry.withoutRank).map TimelineEntry.eventId =
        others.map TimelineEntry.eventId := fun others => List.map_map
  apply timelineKeys.causalOrder_eq_of_perm
  · rw [Keys.Distinct, List.map_append, twice, List.map_append]
    unfold DistinctEvents at distinct
    rw [List.map_append, ← withoutRank_ids added] at distinct
    exact (((eventIds_causalTimelineOrder entries).append_right _).nodup_iff).mpr distinct
  · rw [List.map_append, twice, List.map_append]
    exact (causalTimelineOrder_perm entries).append_right _

theorem events_comm {entries : List TimelineEntry} {first second : TimelineEntry}
    (distinct : DistinctEvents (entries ++ [first, second])) :
    causalTimelineOrder (causalTimelineOrder (entries ++ [first]) ++ [second]) =
      causalTimelineOrder (causalTimelineOrder (entries ++ [second]) ++ [first]) := by
  have swapped : (entries ++ [first, second]).Perm (entries ++ [second, first]) :=
    (List.Perm.swap second first []).append_left entries
  have distinct' : DistinctEvents (entries ++ [second, first]) :=
    (swapped.map _).nodup_iff.mp distinct
  rw [causalTimelineOrder_append (by simpa using distinct),
    causalTimelineOrder_append (by simpa using distinct')]
  simpa using causalTimelineOrder_eq_of_perm distinct swapped

theorem rankOf_eq_zero_of_impliedStatusOf {eventType : EventType}
    (proves : impliedStatusOf eventType = none) : rankOf eventType = 0 := by
  revert proves
  cases eventType <;> decide

/-- The higher of two ranks decides, whichever comes first. -/
theorem raise_comm_of_lt (status : OrderStatus) (rank : Nat) {low high : Nat}
    (below : low < high) (lowStatus highStatus : OrderStatus) :
    raise (raise status rank (some lowStatus) low) (max rank low) (some highStatus)
        high =
      raise (raise status rank (some highStatus) high) (max rank high)
        (some lowStatus) low := by
  have settled : ¬max rank high < low := by omega
  simp only [raise, if_neg settled]
  by_cases reached : rank < high
  · have raised : max rank low < high := by omega
    rw [if_pos raised, if_pos reached]
  · have unraised : ¬max rank low < high := by omega
    have unmoved : ¬rank < low := by omega
    rw [if_neg unraised, if_neg unmoved, if_neg reached]

theorem raise_comm (status : OrderStatus) (rank : Nat) (first second : EventType) :
    raise (raise status rank (impliedStatusOf first) (rankOf first))
        (max rank (rankOf first)) (impliedStatusOf second) (rankOf second) =
      raise (raise status rank (impliedStatusOf second) (rankOf second))
        (max rank (rankOf second)) (impliedStatusOf first) (rankOf first) := by
  cases firstProves : impliedStatusOf first with
  | none =>
      simp only [raise, rankOf_eq_zero_of_impliedStatusOf firstProves, Nat.max_zero]
  | some firstStatus =>
      cases secondProves : impliedStatusOf second with
      | none =>
          simp only [raise, rankOf_eq_zero_of_impliedStatusOf secondProves,
            Nat.max_zero]
      | some secondStatus =>
          rcases Nat.lt_trichotomy (rankOf first) (rankOf second) with
            below | same | above
          · exact raise_comm_of_lt status rank below firstStatus secondStatus
          · have statuses := impliedStatusOf_eq_of_rankOf_eq same
            rw [firstProves, secondProves, Option.some.injEq] at statuses
            subst statuses
            simp only [same]
          · exact (raise_comm_of_lt status rank above secondStatus firstStatus).symm

/-! ## Fields that are written once -/

/-- The facts that carry a reference, the header or the cancellation reason. -/
def writesOnce : EventType → Bool
  | .orderPlaced => true
  | .orderDespatched => true
  | .invoiceIssued => true
  | .paymentReceived => true
  | .orderCancelled => true
  | _ => false

/-- Two facts that do not carry the same field. -/
def Exclusive (first second : FactEnvelope) : Prop :=
  first.eventType = second.eventType → writesOnce first.eventType = false

theorem Exclusive.symm {first second : FactEnvelope}
    (exclusive : Exclusive first second) : Exclusive second first := by
  intro same
  rw [same]
  exact exclusive same.symm

/-- A part that only one type of fact carries is carried by one of two exclusive
facts at most. -/
theorem Exclusive.absent {first second : FactEnvelope} {β : Type}
    (exclusive : Exclusive first second) (part : FactEnvelope → Option β)
    (carrier : EventType) (once : writesOnce carrier = true)
    (carried : ∀ envelope, part envelope ≠ none → envelope.eventType = carrier) :
    part first = none ∨ part second = none := by
  by_contra both
  rw [not_or] at both
  have firstType := carried first both.1
  have secondType := carried second both.2
  have never := exclusive (firstType.trans secondType.symm)
  rw [firstType, once] at never
  contradiction

theorem or_right_comm_of_absent {β : Type} {stored first second : Option β}
    (absent : first = none ∨ second = none) :
    (stored.or first).or second = (stored.or second).or first := by
  rcases absent with rfl | rfl
  · simp
  · simp

section Exclusive

variable {first second : FactEnvelope} (exclusive : Exclusive first second)
include exclusive

theorem Exclusive.header : headerOf first = none ∨ headerOf second = none := by
  apply exclusive.absent headerOf .orderPlaced rfl
  intro envelope
  cases payload : envelope.fact <;>
    simp [headerOf, payload, FactEnvelope.eventType, Fact.eventType]

theorem Exclusive.cancellationReason :
    (fillOf first.fact).cancellationReason = none ∨
      (fillOf second.fact).cancellationReason = none := by
  apply exclusive.absent (fun envelope => (fillOf envelope.fact).cancellationReason)
    .orderCancelled rfl
  intro envelope
  cases payload : envelope.fact <;>
    simp [fillOf, payload, FactEnvelope.eventType, Fact.eventType]

theorem Exclusive.despatchReference :
    (fillOf first.fact).references.despatchReference = none ∨
      (fillOf second.fact).references.despatchReference = none := by
  apply exclusive.absent
    (fun envelope => (fillOf envelope.fact).references.despatchReference)
    .orderDespatched rfl
  intro envelope
  cases payload : envelope.fact <;>
    simp [fillOf, payload, noReferences, FactEnvelope.eventType, Fact.eventType]

theorem Exclusive.invoiceReference :
    (fillOf first.fact).references.invoiceReference = none ∨
      (fillOf second.fact).references.invoiceReference = none := by
  apply exclusive.absent
    (fun envelope => (fillOf envelope.fact).references.invoiceReference)
    .invoiceIssued rfl
  intro envelope
  cases payload : envelope.fact <;>
    simp [fillOf, payload, noReferences, FactEnvelope.eventType, Fact.eventType]

theorem Exclusive.paymentReference :
    (fillOf first.fact).references.paymentReference = none ∨
      (fillOf second.fact).references.paymentReference = none := by
  apply exclusive.absent
    (fun envelope => (fillOf envelope.fact).references.paymentReference)
    .paymentReceived rfl
  intro envelope
  cases payload : envelope.fact <;>
    simp [fillOf, payload, noReferences, FactEnvelope.eventType, Fact.eventType]

theorem bodyStage_comm (document : OrderTimelineDocument)
    (distinct :
      DistinctEvents (document.events ++ [entryOf first, entryOf second])) :
    bodyStage (projectFact second) (dedupKeyOf second.eventId)
        (bodyStage (projectFact first) (dedupKeyOf first.eventId) document) =
      bodyStage (projectFact first) (dedupKeyOf first.eventId)
        (bodyStage (projectFact second) (dedupKeyOf second.eventId) document) := by
  simp only [bodyStage, OrderTimelineDocument.mk.injEq, OrderReferences.mk.injEq,
    true_and, and_true]
  apply And.intro
  · exact raise_comm document.status document.statusRank first.eventType
      second.eventType
  apply And.intro
  · exact or_right_comm_of_absent exclusive.cancellationReason
  apply And.intro
  · exact ⟨or_right_comm_of_absent exclusive.despatchReference,
      or_right_comm_of_absent exclusive.invoiceReference,
      or_right_comm_of_absent exclusive.paymentReference⟩
  apply And.intro
  · exact events_comm distinct
  apply And.intro
  · exact max_right_comm _ _ _
  apply And.intro
  · exact max_right_comm _ _ _
  · exact unionKey_comm _ _ _

/-- The updates of two exclusive facts commute; the header touches nothing the
rest of an update reads. -/
theorem applyPlain_comm (document : OrderTimelineDocument)
    (distinct :
      DistinctEvents (document.events ++ [entryOf first, entryOf second])) :
    applyPlain (applyPlain document first) second =
      applyPlain (applyPlain document second) first := by
  have body := bodyStage_comm exclusive document distinct
  have firstHeader : (projectFact first).header = headerOf first := rfl
  have secondHeader : (projectFact second).header = headerOf second := rfl
  unfold applyPlain setStage
  rw [firstHeader, secondHeader]
  rcases exclusive.header with headless | headless
  · rw [headless]
    cases headerOf second with
    | none => exact body
    | some header => exact congrArg header.write body
  · rw [headless]
    cases headerOf first with
    | none => exact body
    | some header => exact congrArg header.write body

end Exclusive

/-! ## Facts in a row -/

/-- The facts' identities are distinct, and new to the document. -/
def Fresh (document : OrderTimelineDocument) (facts : List FactEnvelope) : Prop :=
  DistinctEvents (document.events ++ facts.map entryOf)

theorem events_applyPlain (document : OrderTimelineDocument)
    (envelope : FactEnvelope) :
    (applyPlain document envelope).events =
      causalTimelineOrder (document.events ++ [entryOf envelope]) := by
  rw [applyPlain, setStage]
  cases (projectFact envelope).header <;> rfl

theorem processedEventKeys_applyPlain (document : OrderTimelineDocument)
    (envelope : FactEnvelope) :
    (applyPlain document envelope).processedEventKeys =
      unionKey document.processedEventKeys (dedupKeyOf envelope.eventId) := by
  rw [applyPlain, setStage]
  cases (projectFact envelope).header <;> rfl

theorem events_deltaToPipeline (evaluate : Evaluation) (delta : ProjectionDelta)
    (dedupKey : String) (document : OrderTimelineDocument) :
    (deltaToPipeline evaluate delta dedupKey document).events =
      causalTimelineOrder
        (document.events ++ [(delta.mapTexts (evaluate document)).entry]) := by
  unfold deltaToPipeline setStage
  cases (delta.mapTexts (evaluate document)).header <;> rfl

/-! ## Fields that no text of a fact reaches -/

section ApplyFact

variable (evaluate : Evaluation) (document : OrderTimelineDocument)
  (envelope : FactEnvelope)

theorem processedEventKeys_applyFact :
    (applyFact evaluate document envelope).processedEventKeys =
      unionKey document.processedEventKeys (dedupKeyOf envelope.eventId) := by
  unfold applyFact deltaToPipeline setStage
  cases ((projectFact envelope).mapTexts (evaluate document)).header <;> rfl

theorem statusRank_applyFact :
    (applyFact evaluate document envelope).statusRank =
      max document.statusRank (rankOf envelope.eventType) := by
  unfold applyFact deltaToPipeline setStage
  cases ((projectFact envelope).mapTexts (evaluate document)).header <;> rfl

theorem status_applyFact :
    (applyFact evaluate document envelope).status =
      raise document.status document.statusRank (impliedStatusOf envelope.eventType)
        (rankOf envelope.eventType) := by
  unfold applyFact deltaToPipeline setStage
  cases ((projectFact envelope).mapTexts (evaluate document)).header <;> rfl

theorem cancellationReason_applyFact :
    (applyFact evaluate document envelope).cancellationReason =
      document.cancellationReason.or (fillOf envelope.fact).cancellationReason := by
  unfold applyFact deltaToPipeline setStage
  cases ((projectFact envelope).mapTexts (evaluate document)).header <;> rfl

end ApplyFact

theorem Fresh.tail {document : OrderTimelineDocument} {envelope : FactEnvelope}
    {facts : List FactEnvelope} (fresh : Fresh document (envelope :: facts)) :
    Fresh (applyPlain document envelope) facts := by
  unfold Fresh DistinctEvents at fresh ⊢
  rw [List.map_cons, ← List.singleton_append, ← List.append_assoc] at fresh
  rw [events_applyPlain, List.map_append]
  rw [List.map_append] at fresh
  exact (((eventIds_causalTimelineOrder _).append_right _).nodup_iff).mpr fresh

theorem Fresh.perm {document : OrderTimelineDocument} {facts facts' : List FactEnvelope}
    (fresh : Fresh document facts) (perm : facts.Perm facts') :
    Fresh document facts' :=
  (((perm.map entryOf).append_left document.events).map _).nodup_iff.mp fresh

/-- Facts come to the same document in every order, by induction on the
permutation. -/
theorem foldl_applyPlain_eq_of_perm {facts facts' : List FactEnvelope}
    (perm : facts.Perm facts') (document : OrderTimelineDocument)
    (fresh : Fresh document facts) (exclusive : facts.Pairwise Exclusive) :
    facts.foldl applyPlain document = facts'.foldl applyPlain document := by
  induction perm generalizing document with
  | nil => rfl
  | cons envelope _ inductionHypothesis =>
      rw [List.pairwise_cons] at exclusive
      exact inductionHypothesis _ fresh.tail exclusive.2
  | swap first second rest =>
      rw [List.pairwise_cons] at exclusive
      have pair := exclusive.1 first List.mem_cons_self
      have distinct :
          DistinctEvents (document.events ++ [entryOf second, entryOf first]) := by
        have both : (document.events ++ [entryOf second, entryOf first]).Sublist
            (document.events ++ (second :: first :: rest).map entryOf) := by
          apply List.Sublist.append_left
          exact ((List.nil_sublist (rest.map entryOf)).cons_cons _).cons_cons _
        exact (both.map TimelineEntry.eventId).nodup fresh
      simp only [List.foldl_cons]
      rw [applyPlain_comm pair document distinct]
  | trans firstPerm _ firstHypothesis secondHypothesis =>
      rw [firstHypothesis document fresh exclusive]
      apply secondHypothesis document (fresh.perm firstPerm)
      exact firstPerm.pairwise exclusive Exclusive.symm

/-- The latest of an instant and the instants of facts. -/
def latest (seed : String) (facts : List FactEnvelope) : String :=
  facts.foldl (fun instant envelope => max instant envelope.occurredAt) seed

theorem latest_le_iff {seed bound : String} {facts : List FactEnvelope} :
    latest seed facts ≤ bound ↔
      seed ≤ bound ∧ ∀ envelope ∈ facts, envelope.occurredAt ≤ bound := by
  induction facts generalizing seed with
  | nil => simp [latest]
  | cons envelope facts inductionHypothesis =>
      have unfolded : latest seed (envelope :: facts) =
          latest (max seed envelope.occurredAt) facts := rfl
      rw [unfolded, inductionHypothesis, max_le_iff, List.forall_mem_cons, and_assoc]

/-- Whose instant the placeholder took does not matter once all are applied. -/
theorem latest_eq_of_mem {first second : FactEnvelope} {facts : List FactEnvelope}
    (firstMem : first ∈ facts) (secondMem : second ∈ facts) :
    latest first.occurredAt facts = latest second.occurredAt facts := by
  have bounded : ∀ {seed other : FactEnvelope}, seed ∈ facts →
      latest seed.occurredAt facts ≤ latest other.occurredAt facts := by
    intro seed other seedMem
    have upper := latest_le_iff.mp (le_refl (latest other.occurredAt facts))
    exact latest_le_iff.mpr ⟨upper.2 seed seedMem, upper.2⟩
  exact le_antisymm (bounded firstMem) (bounded secondMem)

theorem applyPlain_updatedAt (document : OrderTimelineDocument) (instant : String)
    (envelope : FactEnvelope) :
    applyPlain { document with updatedAt := instant } envelope =
      { applyPlain document envelope with
        updatedAt := max instant envelope.occurredAt } := by
  unfold applyPlain setStage
  cases (projectFact envelope).header <;> rfl

theorem foldl_applyPlain_updatedAt (facts : List FactEnvelope)
    (document : OrderTimelineDocument) (instant : String) :
    facts.foldl applyPlain { document with updatedAt := instant } =
      { facts.foldl applyPlain document with updatedAt := latest instant facts } := by
  induction facts generalizing document instant with
  | nil => rfl
  | cons envelope facts inductionHypothesis =>
      rw [List.foldl_cons, applyPlain_updatedAt, inductionHypothesis]
      rfl

/-- The document of facts, from the placeholder of any one of them. -/
theorem projected_eq {facts facts' : List FactEnvelope} (perm : facts.Perm facts')
    (orderId : OrderNumber) {seed seed' : FactEnvelope} (seedMem : seed ∈ facts)
    (seedMem' : seed' ∈ facts)
    (distinct : (facts.map FactEnvelope.eventId).Nodup)
    (exclusive : facts.Pairwise Exclusive) :
    facts.foldl applyPlain (placeholderSkeleton orderId seed.occurredAt) =
      facts'.foldl applyPlain (placeholderSkeleton orderId seed'.occurredAt) := by
  have fresh : Fresh (placeholderSkeleton orderId seed'.occurredAt) facts := by
    unfold Fresh DistinctEvents
    simpa [placeholderSkeleton, List.map_map, Function.comp_def, entryOf] using distinct
  rw [← foldl_applyPlain_eq_of_perm perm _ fresh exclusive]
  have reseeded : placeholderSkeleton orderId seed.occurredAt =
      { placeholderSkeleton orderId seed'.occurredAt with
        updatedAt := seed.occurredAt } := rfl
  rw [reseeded, foldl_applyPlain_updatedAt, latest_eq_of_mem seedMem seedMem',
    ← foldl_applyPlain_updatedAt]
  rfl

end OrderToCash.Projector
